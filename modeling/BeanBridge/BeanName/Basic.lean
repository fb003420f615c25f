/-! Names of managed beans, and patterns over them: `domain:key=value,key=value`, where the domain
and the values may hold the wildcards `*` and `?`, values may be quoted, and a lone `*` among the
entries leaves the list of properties open. -/

namespace BeanBridge

/-- One `key=value` entry of a bean name. -/
structure Property where
  key : String
  /-- The value as written, quotes included. -/
  value : String
  /-- The value holds a wildcard that no escape makes literal. -/
  wildcard : Bool
  deriving DecidableEq

/-- A property, written `key=value`. -/
def Property.text (p : Property) : String := p.key ++ "=" ++ p.value

/-- The name of a bean, or a pattern that selects beans. -/
structure BeanName where
  domain : String
  /-- The properties in the order written. -/
  properties : List Property
  /-- A `*` entry admits further properties. -/
  isOpen : Bool
  deriving DecidableEq

namespace BeanName

def isWildcard (c : Char) : Bool := c == '*' || c == '?'

/-- The value of a key, as written. -/
def value? (name : BeanName) (key : String) : Option String :=
  (name.properties.find? (·.key == key)).map (·.value)

/-- The domain holds a wildcard. -/
def isDomainPattern (name : BeanName) : Bool := name.domain.toList.any isWildcard

/-- The list of properties is open, or some value holds a wildcard. -/
def isPropertyPattern (name : BeanName) : Bool :=
  name.isOpen || name.properties.any (·.wildcard)

/-- The name selects any number of beans instead of standing for one. -/
def isPattern (name : BeanName) : Bool := name.isDomainPattern || name.isPropertyPattern

/-- The properties, separated by commas. -/
def propertiesText (properties : List Property) : String :=
  ",".intercalate (properties.map (·.text))

/-- The name as text, its `*` entry last. -/
def text (name : BeanName) : String :=
  let open_ := if name.isOpen then (if name.properties.isEmpty then "*" else ",*") else ""
  name.domain ++ ":" ++ propertiesText name.properties ++ open_

instance : ToString BeanName := ⟨text⟩

/-- The properties in the order of their keys. -/
def sortedProperties (name : BeanName) : List Property :=
  name.properties.mergeSort fun a b => decide (a.key ≤ b.key)

/-- The properties in the order of their keys, as text. -/
def canonicalProperties (name : BeanName) : String := propertiesText name.sortedProperties

/-- The text that two names share exactly when they name the same bean. -/
def canonicalText (name : BeanName) : String := name.domain ++ ":" ++ name.canonicalProperties

end BeanName

end BeanBridge
