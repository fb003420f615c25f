import BeanBridge.BeanName.Basic

/-! The path of a bean in the listing of an agent: the domain and the canonical properties with a
slash between them.  Inside a part `!` is written `!!` and `/` is written `!/`, so the first slash
without a mark before it ends the domain. -/

namespace BeanBridge.BeanName

/-- One character of a part. -/
def escapedInPath (c : Char) : List Char :=
  if c = '!' then ['!', '!'] else if c = '/' then ['!', '/'] else [c]

def pathPart (part : String) : String := String.ofList (part.toList.flatMap escapedInPath)

def path (name : BeanName) : String :=
  pathPart name.domain ++ "/" ++ pathPart name.canonicalProperties

end BeanBridge.BeanName
