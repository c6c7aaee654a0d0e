import SqlMapping.Text.Pattern
import SqlMapping.Text.Pattern.CharacterClass

/-!
# What written patterns mean

The pattern of a tree is made from left to right, because flags hold for what stands after
them, but the flags of a group do not outlast it.  A property that is not known, and a class that
the mode does not admit, are faults.
-/

namespace SqlMapping.Text.Pattern

/-! ## Classes -/

/-- How an operator puts the answers of its two sides together. -/
def Operator.holds : Operator → Bool → Bool → Bool
  | both, left, right => left && right
  | without, left, right => left && !right
  | either, left, right => left != right

/-- Split a text before and after the first place of a mark. -/
def splitAtMark (mark : List Char) : List Char → Option (List Char × List Char)
  | [] => none
  | character :: rest =>
    if mark.isPrefixOf (character :: rest) then
      some ([], (character :: rest).drop mark.length)
    else (splitAtMark mark rest).map fun (name, value) => (character :: name, value)

/-- The class of a property's value, if there is such a property. -/
def valueClass (span : Span) (name value : List Char) : Except PatternFault (Char → Bool) :=
  match valuedProperty? name value with
  | some inClass => .ok inClass
  | none => .error ⟨if hasValues name then .unknownValue else .unknownProperty, span, none⟩

/-- The class of the characters with a property; a name and its value may be unequal. -/
def propertyClass (span : Span) (content : List Char) : Except PatternFault (Char → Bool) :=
  match splitAtMark ['!', '='] content with
  | some (name, value) =>
    (valueClass span name value).map fun inClass character => !inClass character
  | none =>
    match splitAtMark [':'] content <|> splitAtMark ['='] content with
    | some (name, value) => valueClass span name value
    | none =>
      match namedProperty? content with
      | some inClass => .ok inClass
      | none => .error ⟨.unknownProperty, span, none⟩

namespace Mode

/-- The class of an atom in brackets, where no place stands. -/
def atomClass (mode : Mode) (span : Span) : Atom → Except PatternFault (Char → Bool)
  | .literal character =>
    if mode.staysAscii && 128 ≤ character.toNat then .error ⟨.beyondAscii, span, none⟩
    else .ok (· = character)
  | .named kind negated =>
    let inClass : Char → Bool := fun character => mode.named kind character != negated
    if mode.admits inClass then .ok inClass else .error ⟨.partOfCharacter, span, none⟩
  | .property name negated =>
    if mode.staysAscii then .error ⟨.beyondAscii, span, none⟩
    else
      (propertyClass span name).map fun inClass =>
        let anyCase := mode.anyCase inClass
        fun character => anyCase character != negated
  | .place _ => .error ⟨.placeInClass, span, none⟩

/-- The class of a tree in brackets. -/
def classOf (mode : Mode) : ClassTree → Except PatternFault (Char → Bool)
  | .nothing => .ok fun _ => false
  | .atom span atom => mode.atomClass span atom
  | .range span low high =>
    if mode.staysAscii && 128 ≤ high.toNat then .error ⟨.beyondAscii, span, none⟩
    else .ok fun character => low ≤ character && character ≤ high
  | .ascii name negated =>
    let anyCase := mode.anyCase ((asciiClasses.lookup name).getD fun _ => false)
    .ok fun character => anyCase character != negated
  | .nested span negated inner => do
    let anyCase := mode.anyCase (← mode.classOf inner)
    let inClass : Char → Bool := fun character => anyCase character != negated
    if mode.admits inClass then .ok inClass else .error ⟨.partOfCharacter, span, none⟩
  | .union first second => do
    let left ← mode.classOf first
    let right ← mode.classOf second
    return fun character => left character || right character
  | .operation operator first second => do
    let left := mode.anyCase (← mode.classOf first)
    let right := mode.anyCase (← mode.classOf second)
    return fun character => operator.holds (left character) (right character)

/-! ## Patterns -/

/-- The pattern of an atom; a literal is met in any case if letter case does not matter. -/
def atomPattern (mode : Mode) (span : Span) : Atom → Except PatternFault Pattern
  | .literal character => .ok (.one (mode.anyCase (· = character)))
  | .place test => .ok (.place (mode.passes test))
  | atom => (mode.atomClass span atom).map .one

/-- The pattern of a tree, and the mode for what stands after it. -/
def patternOf (mode : Mode) : Tree → Except PatternFault (Pattern × Mode)
  | .empty => .ok (.empty, mode)
  | .atom span atom => do return (← mode.atomPattern span atom, mode)
  | .point span =>
    if mode.staysAscii then .error ⟨.partOfCharacter, span, none⟩
    else .ok (.one mode.point, mode)
  | .bracket inner => do return (.one (← mode.classOf inner), mode)
  | .sequence first second => do
    let (left, mode) ← mode.patternOf first
    let (right, mode) ← mode.patternOf second
    return (.sequence left right, mode)
  | .choice first second => do
    let (left, mode) ← mode.patternOf first
    let (right, mode) ← mode.patternOf second
    return (.choice left right, mode)
  | .repeated least most inner => do
    let (part, mode) ← mode.patternOf inner
    return (.repeated least most part, mode)
  | .group flags inner => do
    let (part, _) ← (mode.setAll flags).patternOf inner
    return (part, mode)
  | .change flags => .ok (.empty, mode.setAll flags)

end Mode

end SqlMapping.Text.Pattern
