import BeanBridge.BeanName.Expression

/-! Which beans a pattern selects, by the expressions of a library. -/

namespace BeanBridge

/-- The value is the one asked for, or one that the wildcards asked for stand for. -/
def Property.admits (wanted : Property) (value : String)
    (library : RegexLibrary := .ofPatterns) : Bool :=
  if wanted.wildcard then Glob.isMatchBy library wanted.value value else wanted.value == value

/-- The pattern selects the bean: the domains match, every property asked for has an admitted value,
and unless the pattern is open the bean has no other property. -/
def BeanName.selects (pattern bean : BeanName) (library : RegexLibrary := .ofPatterns) : Bool :=
  Glob.isMatchBy library pattern.domain bean.domain &&
    (pattern.isOpen || pattern.properties.length == bean.properties.length) &&
    pattern.properties.all fun wanted =>
      (bean.value? wanted.key).any fun value => wanted.admits value library

end BeanBridge
