/-!
# Option families

An option family is one of the names that global option declarations may use. A family either is
a flag or carries a value, and this decides which of the two declaration forms it accepts.

## What this module delivers

- `OptionKind`: the three shapes of an option or annotation value, with their written forms.
- `OptionFamily`: the closed list of families, `all` in the order every option table lists them,
  with `name`, `carriesValue` and `kind`.
- `OptionError`: the two ways a declaration can fail to fit the families, with `message`.
- `OptionFamily.ofName`, `OptionFamily.ofValuedName`: reading a name; only value-bearing
  declarations may write `paginate` for `pagination`.
- `ofName_name`, `ofValuedName_name`: the name of a family reads back; no other text does
  (`ofName_eq_ok_iff`), and no two families have one name (`name_injective`).
-/

set_option autoImplicit false

namespace DomainModel

/-- The shape of what stands after the name of an option or annotation: nothing, one value, or a
list of entries. -/
inductive OptionKind where
  | flag
  | single
  | entries
  deriving DecidableEq, Repr

/-- The written form of a kind. -/
def OptionKind.text : OptionKind → String
  | .flag => "UNARY"
  | .single => "BINARY"
  | .entries => "MAP"

/-- The families that option declarations may name. -/
inductive OptionFamily where
  | dto
  | pagination
  | service
  | microservice
  | search
  | skipClient
  | skipServer
  | filter
  | angularSuffix
  | noFluentMethod
  | readOnly
  | embedded
  | clientRootFolder
  deriving DecidableEq, Repr

/-- Why a declaration does not fit the option families. -/
inductive OptionError where
  /-- No family has this name. -/
  | unknownFamily (name : String)
  /-- The family takes declarations of one kind and was given one of the other. -/
  | kindMismatch (family : OptionFamily) (expected found : OptionKind)
  deriving DecidableEq, Repr

namespace OptionFamily

/-- Every family, in the order option tables list them. -/
def all : List OptionFamily :=
  [.dto, .pagination, .service, .microservice, .search, .skipClient, .skipServer, .filter,
    .angularSuffix, .noFluentMethod, .readOnly, .embedded, .clientRootFolder]

/-- The written name of a family. -/
def name : OptionFamily → String
  | .dto => "dto"
  | .pagination => "pagination"
  | .service => "service"
  | .microservice => "microservice"
  | .search => "search"
  | .skipClient => "skipClient"
  | .skipServer => "skipServer"
  | .filter => "filter"
  | .angularSuffix => "angularSuffix"
  | .noFluentMethod => "noFluentMethod"
  | .readOnly => "readOnly"
  | .embedded => "embedded"
  | .clientRootFolder => "clientRootFolder"

/-- Whether declarations of a family carry a value. -/
def carriesValue : OptionFamily → Bool
  | .skipClient | .skipServer | .filter | .noFluentMethod | .readOnly | .embedded => false
  | .dto | .pagination | .service | .microservice | .search | .angularSuffix
  | .clientRootFolder => true

/-- The kind of declaration that a family accepts. -/
def kind (family : OptionFamily) : OptionKind := if family.carriesValue then .single else .flag

/-- The list of families leaves none out. -/
theorem mem_all (family : OptionFamily) : family ∈ all := by
  cases family <;> decide

/-- The list of families names none twice. -/
theorem nodup_all : all.Nodup := by decide

/-- The family with a name. -/
def ofName (name : String) : Except OptionError OptionFamily :=
  match all.find? fun family => family.name == name with
  | some family => .ok family
  | none => .error (.unknownFamily name)

/-- The family that a value-bearing declaration means by a name; it may write `paginate` for
`pagination`. -/
def ofValuedName (name : String) : Except OptionError OptionFamily :=
  if name = "paginate" then .ok .pagination else ofName name

/-- The name of a family reads back as that family. -/
@[simp]
theorem ofName_name (family : OptionFamily) : ofName family.name = .ok family := by
  cases family <;> rfl

/-- Only the name of a family is looked up as that family. -/
theorem ofName_eq_ok_iff {name : String} {family : OptionFamily} :
    ofName name = .ok family ↔ name = family.name := by
  constructor
  · intro h
    rw [ofName] at h
    cases hfind : all.find? fun family => family.name == name with
    | none => simp [hfind] at h
    | some found =>
        have hname : found.name = name := by simpa using List.find?_some hfind
        rw [hfind] at h
        cases h
        exact hname.symm
  · rintro rfl
    exact ofName_name family

/-- No two families have the same name. -/
theorem name_injective : Function.Injective name := by
  intro family other h
  have hother : ofName family.name = .ok other := ofName_eq_ok_iff.2 h
  rw [ofName_name] at hother
  cases hother
  rfl

/-- A value-bearing declaration may write every name that any declaration may write. -/
@[simp]
theorem ofValuedName_name (family : OptionFamily) : ofValuedName family.name = .ok family := by
  cases family <;> rfl

end OptionFamily

/-- The wording of an option error. -/
def OptionError.message : OptionError → String
  | .unknownFamily name => "unknown option `" ++ name ++ "`"
  | .kindMismatch family expected found =>
      "option `" ++ family.name ++ "` takes " ++ expected.text ++ " declarations, found a "
        ++ found.text ++ " declaration"

end DomainModel
