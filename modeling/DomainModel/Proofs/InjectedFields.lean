import DomainModel.Proofs.Relationships
import DomainModel.Proofs.Separators

/-!
# Injected fields read back

An injected field is flattened twice: the parts of each parameter become a dotted name, and the
names become one text behind the base of the field. What is declared on the parameters goes into a
list beside this text, and only the dotted name tells to which parameter an annotation belongs. So
the text has to be readable. It is when its tokens are free of the characters that hold it together:
the base ends at the first parenthesis, and the names are what stands between commas inside the
parentheses. A field without parameters has no parentheses, and a parameter without a name is an
empty text between them, so the two are not confused. Dots are one level below: they show the parts
of a name as long as no part has one of its own and no name is without parts.

## What this module delivers

- `baseOf`, `namesOf`: base and names, read off the text of an injected field.
- `Side.IsLegible`, `Side.HasParts`: when the names, and the parts of names, can be read.
- `baseOf_injectedText`, `namesOf_injectedText`, `splitTexts_dotted`: what is read off is what was
  written.
- `annotationCount`, `getElem?_parameterAnnotations`, `key_of_mem_parameterAnnotations`: where the
  annotations of parameters stand, and under which key.
- `Side.ReadsBack`, `injected_fields_read_back`: the injected field of every side.
-/

set_option autoImplicit false

namespace DomainModel.Declared

open Text (Stops splitTexts)

/-! ## The text of an injected field -/

/-- The base of an injected field, read off its text: all before the first parenthesis. -/
def baseOf (text : String) : String := String.ofList (text.toList.takeWhile (· != '('))

/-- The names of the parameters of an injected field, read off its text: none when there are no
parentheses, and otherwise what stands between commas inside them. -/
def namesOf (text : String) : List String :=
  match text.toList.dropWhile (· != '(') with
  | [] => []
  | _ :: inside => splitTexts ',' inside.dropLast

/-- The characters behind the base of an injected field. -/
def bracketed (parameters : List Parameter) : List Char :=
  match parameters with
  | [] => []
  | first :: others =>
      '(' :: ([','].intercalate (((first :: others).map Parameter.name).map String.toList) ++ [')'])

theorem toList_injectedText (base : Token) (parameters : List Parameter) :
    (injectedText base parameters).toList = base.image.toList ++ bracketed parameters := by
  cases parameters with
  | nil => exact (List.append_nil _).symm
  | cons first others =>
      change (base.image ++ "(" ++
        ",".intercalate ((first :: others).map Parameter.name) ++ ")").toList = _
      rw [String.toList_append, String.toList_append, String.toList_append,
        String.toList_intercalate, List.append_assoc, List.append_assoc]
      rfl

/-- A base ends where its parameters begin. -/
theorem stops_bracketed (parameters : List Parameter) :
    Stops (· != '(') (bracketed parameters) := by
  cases parameters with
  | nil => exact Text.stops_nil _
  | cons first others => exact Text.stops_cons rfl _

theorem ne_of_notMem {text : List Char} {mark : Char} (h : mark ∉ text) :
    ∀ char ∈ text, (char != mark) = true := by
  intro char hchar
  have hne : char ≠ mark := fun heq => h (heq ▸ hchar)
  simpa using hne

/-- The base of an injected field is read off its text. -/
theorem baseOf_injectedText {base : Token} (h : '(' ∉ base.image.toList)
    (parameters : List Parameter) : baseOf (injectedText base parameters) = base.image := by
  rw [baseOf, toList_injectedText,
    Text.takeWhile_append_of_stops (ne_of_notMem h) (stops_bracketed parameters),
    String.ofList_toList]

/-- The names of the parameters of an injected field are read off its text. -/
theorem namesOf_injectedText {base : Token} (h : '(' ∉ base.image.toList)
    {parameters : List Parameter}
    (hnames : ∀ parameter ∈ parameters, ',' ∉ parameter.name.toList) :
    namesOf (injectedText base parameters) = parameters.map Parameter.name := by
  rw [namesOf, toList_injectedText,
    Text.dropWhile_append_of_stops (ne_of_notMem h) (stops_bracketed parameters)]
  cases parameters with
  | nil => rfl
  | cons first others =>
      -- the last character is the closing parenthesis, whatever the names have in them
      change splitTexts ',' (List.dropLast (_ ++ [')'])) = _
      rw [List.dropLast_concat]
      exact Text.splitTexts_intercalate (List.cons_ne_nil _ _) (List.forall_mem_map.2 hnames)

/-! ## Dotted names -/

theorem toList_dotted (tokens : List Token) :
    (Token.dotted tokens).toList = ['.'].intercalate ((Token.images tokens).map String.toList) := by
  rw [Token.dotted, String.toList_intercalate]
  rfl

/-- A dotted name has no character but dots and those of its parts. -/
theorem notMem_dotted {tokens : List Token} {char : Char} (hdot : char ≠ '.')
    (h : ∀ token ∈ tokens, char ∉ token.image.toList) : char ∉ (Token.dotted tokens).toList := by
  rw [toList_dotted]
  intro hmem
  rcases Text.mem_of_mem_intercalate hmem with hseparator | ⟨part, hpart, hchar⟩
  · exact hdot (List.mem_singleton.1 hseparator)
  · rw [Token.images, List.map_map] at hpart
    obtain ⟨token, htoken, rfl⟩ := List.mem_map.1 hpart
    exact h token htoken hchar

/-- The parts of a dotted name are read off it when there are any and no part has a dot. -/
theorem splitTexts_dotted {tokens : List Token} (hne : tokens ≠ [])
    (h : ∀ token ∈ tokens, '.' ∉ token.image.toList) :
    splitTexts '.' (Token.dotted tokens).toList = Token.images tokens := by
  rw [toList_dotted]
  exact Text.splitTexts_intercalate (by simpa [Token.images] using hne) (List.forall_mem_map.2 h)

/-! ## The annotations of parameters -/

/-- How many annotations the parameters have together. -/
def annotationCount (parameters : List Parameter) : Nat :=
  (parameters.map fun parameter => parameter.annotations.length).sum

theorem length_parameterAnnotations (parameters : List Parameter) :
    (parameterAnnotations parameters).length = annotationCount parameters := by
  simp [parameterAnnotations, annotationCount, List.length_flatMap]

/-- An annotation stands behind those of all parameters before its own and those before it on this
parameter, and its key is the name of this parameter. -/
theorem getElem?_parameterAnnotations {parameters : List Parameter} {i j : Nat}
    {parameter : Parameter} {a : Annotation} (hparameter : parameters[i]? = some parameter)
    (ha : parameter.annotations[j]? = some a) :
    (parameterAnnotations parameters)[annotationCount (parameters.take i) + j]? =
      some ⟨parameter.name, a.toModel⟩ := by
  have hkeyed : (parameter.annotations.map fun a =>
      KeyedAnnotation.mk parameter.name a.toModel)[j]? = some ⟨parameter.name, a.toModel⟩ := by
    rw [List.getElem?_map, ha, Option.map_some]
  have hplace := getElem?_flatMap_of_getElem? (f := fun parameter : Parameter =>
    parameter.annotations.map fun a => KeyedAnnotation.mk parameter.name a.toModel)
    hparameter hkeyed
  simpa [parameterAnnotations, annotationCount] using hplace

/-- Every key is the name of a parameter. -/
theorem key_of_mem_parameterAnnotations {parameters : List Parameter} {keyed : KeyedAnnotation}
    (h : keyed ∈ parameterAnnotations parameters) : keyed.key ∈ parameters.map Parameter.name := by
  obtain ⟨parameter, hparameter, hkeyed⟩ := List.mem_flatMap.1 h
  obtain ⟨a, -, rfl⟩ := List.mem_map.1 hkeyed
  exact List.mem_map_of_mem hparameter

/-! ## Sides -/

namespace Side

/-- The tokens that the text of an injected field is made of. -/
def fieldTokens (side : Side) : List Token :=
  side.injected.toList ++ side.parameters.flatMap Parameter.names

/-- No token of an injected field has a parenthesis or a comma of its own. -/
def IsLegible (side : Side) : Prop :=
  ∀ token ∈ side.fieldTokens, ∀ char ∈ token.image.toList, char ∉ ['(', ')', ',']

-- the characters of the tokens are gone through, not all characters there are
instance (side : Side) : Decidable side.IsLegible :=
  decidable_of_iff
    (side.fieldTokens.all (fun token =>
      token.image.toList.all fun char => decide (char ∉ ['(', ')', ','])) = true)
    (by simp only [IsLegible, List.all_eq_true, decide_eq_true_eq])

/-- Every parameter has a name of at least one part, and no part has a dot of its own. -/
def HasParts (side : Side) : Prop :=
  ∀ parameter ∈ side.parameters,
    parameter.names ≠ [] ∧ ∀ token ∈ parameter.names, '.' ∉ token.image.toList

theorem IsLegible.base {side : Side} (h : side.IsLegible) {base : Token}
    (hbase : side.injected = some base) : '(' ∉ base.image.toList := by
  intro hmem
  have htoken : base ∈ side.fieldTokens := by simp [fieldTokens, hbase]
  exact h base htoken '(' hmem (by decide)

theorem IsLegible.names {side : Side} (h : side.IsLegible) :
    ∀ parameter ∈ side.parameters, ',' ∉ parameter.name.toList := by
  intro parameter hparameter
  apply notMem_dotted (by decide)
  intro token htoken hmem
  have hfield : token ∈ side.fieldTokens :=
    List.mem_append_right _ (List.mem_flatMap.2 ⟨parameter, hparameter, htoken⟩)
  exact h token hfield ',' hmem (by decide)

/-- How an injected field tells what it was made of. -/
structure ReadsBack (side : Side) (base : Token) (field : InjectedField) : Prop where
  /-- The base is read off the text. -/
  base : side.IsLegible → baseOf field.text = base.image
  /-- The names of the parameters are read off the text, in their order. -/
  names : side.IsLegible → namesOf field.text = side.parameters.map Parameter.name
  /-- The parts of each name are read off this name. -/
  parts : side.HasParts →
    (side.parameters.map Parameter.name).map (fun name => splitTexts '.' name.toList) =
      side.parameters.map fun parameter => Token.images parameter.names
  /-- The annotations stand one behind the other, parameter by parameter, each under the name of its
  own parameter. -/
  annotations : ∀ (i j : Nat) (parameter : Parameter) (a : Annotation),
    side.parameters[i]? = some parameter → parameter.annotations[j]? = some a →
      field.annotations[annotationCount (side.parameters.take i) + j]? =
        some ⟨parameter.name, a.toModel⟩
  /-- There are as many annotations as the parameters have together. -/
  length : field.annotations.length = annotationCount side.parameters
  /-- Every key is the name of a parameter. -/
  key : ∀ keyed ∈ field.annotations, keyed.key ∈ side.parameters.map Parameter.name
  /-- Every key is one of the names in the text. -/
  keyInText : side.IsLegible → ∀ keyed ∈ field.annotations, keyed.key ∈ namesOf field.text

theorem readsBack_toModel {side : Side} {base : Token} {field : InjectedField}
    (hbase : side.injected = some base) (hfield : side.toModel.injected = some field) :
    side.ReadsBack base field := by
  obtain ⟨htext, hannotations, -⟩ := side.becomes_toModel.field base field hbase hfield
  have hkey : ∀ keyed ∈ field.annotations, keyed.key ∈ side.parameters.map Parameter.name := by
    intro keyed hkeyed
    rw [hannotations] at hkeyed
    exact key_of_mem_parameterAnnotations hkeyed
  have hnames : side.IsLegible → namesOf field.text = side.parameters.map Parameter.name := by
    intro h
    rw [htext, namesOf_injectedText (h.base hbase) h.names]
  refine ⟨?_, hnames, ?_, ?_, ?_, hkey, ?_⟩
  · intro h
    rw [htext, baseOf_injectedText (h.base hbase)]
  · intro h
    rw [List.map_map]
    apply List.map_congr_left
    intro parameter hparameter
    obtain ⟨hne, hdots⟩ := h parameter hparameter
    exact splitTexts_dotted hne hdots
  · intro i j parameter a hparameter ha
    rw [hannotations, getElem?_parameterAnnotations hparameter ha]
  · rw [hannotations, length_parameterAnnotations]
  · -- the keys are the declared names, and those are what the text shows
    intro h keyed hkeyed
    rw [hnames h]
    exact hkey keyed hkeyed

end Side

/-- Every side with an injected field has one whose text and annotations read back; and two sides
with the same text have the same base and parameters of the same names, one for one, and of the same
parts where these can be told apart. -/
theorem injected_fields_read_back :
    (∀ (side : Side) (base : Token), side.injected = some base →
      ∃ field, side.toModel.injected = some field ∧ side.ReadsBack base field) ∧
    ∀ (side other : Side) (base otherBase : Token) (field otherField : InjectedField),
      side.injected = some base → other.injected = some otherBase →
      side.toModel.injected = some field → other.toModel.injected = some otherField →
      side.IsLegible → other.IsLegible → field.text = otherField.text →
        base.image = otherBase.image ∧
        side.parameters.map Parameter.name = other.parameters.map Parameter.name ∧
        (side.HasParts → other.HasParts →
          side.parameters.map (fun parameter => Token.images parameter.names) =
            other.parameters.map fun parameter => Token.images parameter.names) := by
  constructor
  · intro side base hbase
    have hfield : side.toModel.injected.isSome := by
      rw [side.becomes_toModel.injected_iff, hbase]
      rfl
    obtain ⟨field, hfield⟩ := Option.isSome_iff_exists.1 hfield
    exact ⟨field, hfield, Side.readsBack_toModel hbase hfield⟩
  · intro side other base otherBase field otherField hbase hotherBase hfield hotherField hlegible
      hotherLegible htext
    have hreads := Side.readsBack_toModel hbase hfield
    have hotherReads := Side.readsBack_toModel hotherBase hotherField
    -- what is read off one text is what was written of both sides
    have hnames : side.parameters.map Parameter.name = other.parameters.map Parameter.name := by
      rw [← hreads.names hlegible, htext, hotherReads.names hotherLegible]
    refine ⟨?_, hnames, ?_⟩
    · rw [← hreads.base hlegible, htext, hotherReads.base hotherLegible]
    · intro hparts hotherParts
      rw [← hreads.parts hparts, hnames, hotherReads.parts hotherParts]

/-- A side that injects a field with a parameter that has no name and one with a name of two parts,
both annotated. -/
def parametrisedSide : Side :=
  { bareSide (.ofImage "Car") with
    injected := some (.ofImage "owner")
    parameters := [⟨[], [⟨.ofImage "hidden", none⟩]⟩,
      ⟨[.ofImage "user", .ofImage "login"], [⟨.ofImage "key", none⟩, ⟨.ofImage "label", none⟩]⟩] }

/-- The same field with the name of two parts as one token, and without annotations. -/
def undividedSide : Side :=
  { parametrisedSide with parameters := [⟨[], []⟩, ⟨[.ofImage "user.login"], []⟩] }

/-- A side that injects a field whose parameters all have names, one of them of two parts. -/
def dividedSide : Side :=
  { bareSide (.ofImage "Car") with
    injected := some (.ofImage "owner")
    parameters := [⟨[.ofImage "user", .ofImage "login"], [⟨.ofImage "key", none⟩]⟩,
      ⟨[.ofImage "id"], []⟩] }

/-- A parameter without a name has its place in the text, and its annotations have an empty key. A
side with a dot in a token may have the same text, and then it has the same names. Where all names
have parts and no part has a dot, every side with the text has the same parts. -/
theorem injected_fields_read_back_unnamed :
    (∃ field, parametrisedSide.toModel.injected = some field ∧ field.text = "owner(,user.login)" ∧
      baseOf field.text = "owner" ∧ namesOf field.text = ["", "user.login"] ∧
      field.annotations.length = 3 ∧ field.annotations[0]? = some ⟨"", .flag "hidden"⟩ ∧
      field.annotations[2]? = some ⟨"user.login", .flag "label"⟩ ∧
      parametrisedSide.parameters.map Parameter.name =
        undividedSide.parameters.map Parameter.name) ∧
    dividedSide.HasParts ∧ ∃ field, dividedSide.toModel.injected = some field ∧
      field.text = "owner(user.login,id)" ∧
      (namesOf field.text).map (fun name => splitTexts '.' name.toList) =
        [["user", "login"], ["id"]] ∧
      ∀ (other : Side) (base : Token) (otherField : InjectedField), other.injected = some base →
        other.toModel.injected = some otherField → other.IsLegible → other.HasParts →
        otherField.text = "owner(user.login,id)" →
        other.parameters.map (fun parameter => Token.images parameter.names) =
          [["user", "login"], ["id"]] := by
  obtain ⟨hread, hinjective⟩ := injected_fields_read_back
  have hparts : dividedSide.HasParts := by
    rw [Side.HasParts]
    decide
  refine ⟨?_, hparts, ?_⟩
  · obtain ⟨field, hfield, hreads⟩ := hread parametrisedSide (.ofImage "owner") rfl
    have hlegible : parametrisedSide.IsLegible := by decide
    have hundivided : undividedSide.IsLegible := by decide
    have htext : field.text = "owner(,user.login)" := by
      cases hfield
      rfl
    obtain ⟨-, hnames, -⟩ := hinjective parametrisedSide undividedSide _ _ field _ rfl rfl hfield rfl
      hlegible hundivided htext
    refine ⟨field, hfield, htext, hreads.base hlegible, hreads.names hlegible, hreads.length, ?_, ?_,
      hnames⟩
    · exact hreads.annotations 0 0 _ _ rfl rfl
    · exact hreads.annotations 1 1 _ _ rfl rfl
  · obtain ⟨field, hfield, hreads⟩ := hread dividedSide (.ofImage "owner") rfl
    have hlegible : dividedSide.IsLegible := by decide
    have htext : field.text = "owner(user.login,id)" := by
      cases hfield
      rfl
    refine ⟨field, hfield, htext, ?_, ?_⟩
    · rw [hreads.names hlegible, hreads.parts hparts]
      rfl
    · intro other base otherField hbase hotherField hotherLegible hotherParts hotherText
      obtain ⟨-, -, hsame⟩ := hinjective dividedSide other _ _ field otherField rfl hbase hfield
        hotherField hlegible hotherLegible (htext.trans hotherText.symm)
      exact (hsame hparts hotherParts).symm

end DomainModel.Declared
