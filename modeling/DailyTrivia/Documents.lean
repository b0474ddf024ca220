import Mathlib.Algebra.Ring.Int.Defs
import Mathlib.Data.List.AList
import Mathlib.Data.Rat.Defs

/-!
A document store: collections of documents addressed by id, a document being a set of
named fields. Writing a document replaces it or merges into it, reading is by address,
and a query selects the documents of one collection by the value of one field.

Collections are Mathlib's association lists, so an id occurs once. The index `C` of
collections is arbitrary; a nested collection is an index that carries its parent.
-/
namespace Documents

/-- A number of double precision. Minus zero is zero here. -/
inductive Double where
  | finite (value : ℚ)
  | infinite (negative : Bool)
  | nan
  deriving DecidableEq

/-- The value of a field. Maps, bytes, references and places are left out: like a timestamp they are
neither a text nor a number. -/
inductive Value where
  | null
  | string (text : String)
  | int (number : Int)
  | double (number : Double)
  | bool (flag : Bool)
  | strings (texts : List String)
  | timestamp
  deriving DecidableEq

/-- The `Int` that a double equals, if there is one. -/
def Double.asInt : Double → Option Int
  | .finite value =>
    if value.den = 1 ∧ -2 ^ 63 ≤ value.num ∧ value.num < 2 ^ 63 then some value.num else none
  | .infinite _ | .nan => none

/-- `value as? Int`. Numbers and booleans are all handed out as an `NSNumber`, and the cast takes
any of them that equals an `Int`; true equals 1. -/
def Value.asInt : Value → Option Int
  | .int number => some number
  | .double number => number.asInt
  | .bool flag => some flag.toInt
  | .null | .string _ | .strings _ | .timestamp => none

abbrev Doc := String → Option Value

/-- The document with exactly these fields. -/
def fields (entries : List (String × Value)) : Doc := fun name => entries.lookup name

/-- Merging overwrites the fields named by the new document and keeps the others. -/
def merge (new old : Doc) : Doc := fun name => (new name).or (old name)

/-- Merging into a document that may be missing. -/
def mergeInto (new : Doc) : Option Doc → Doc
  | some old => merge new old
  | none => new

/-- `data[name] as? String`. -/
def Doc.string (document : Doc) (name : String) : Option String :=
  match document name with
  | some (.string text) => some text
  | _ => none

/-- `data[name] as? Int`. -/
def Doc.int (document : Doc) (name : String) : Option Int := (document name).bind Value.asInt

/-- The `Int` a decoder finds, to which a boolean is no number. -/
def Doc.decodeInt (document : Doc) (name : String) : Option Int :=
  match document name with
  | some (.bool _) => none
  | _ => document.int name

/-- The `Bool` a decoder finds, to which a number is no boolean. -/
def Doc.bool (document : Doc) (name : String) : Option Bool :=
  match document name with
  | some (.bool flag) => some flag
  | _ => none

/-- `data[name] as? [String]`. -/
def Doc.strings (document : Doc) (name : String) : Option (List String) :=
  match document name with
  | some (.strings texts) => some texts
  | _ => none

/-- A field that may be missing or null, but not of another type. -/
def Doc.optional {T : Type} (document : Doc) (name : String) (read : Doc → String → Option T) :
    Option (Option T) :=
  match document name with
  | none | some .null => some none
  | some _ => (read document name).map some

section Fields

variable {new : Doc} {name : String}

/-- The named fields are the new document's, whatever was there. -/
theorem mergeInto_of_some {old : Option Doc} {value : Value} (named : new name = some value) :
    mergeInto new old name = some value := by
  cases old <;> simp [mergeInto, merge, named]

/-- A field that is not named keeps its value. -/
theorem mergeInto_of_none {old : Doc} (unnamed : new name = none) :
    mergeInto new (some old) name = old name := by
  simp [mergeInto, merge, unnamed]

theorem string_eq_some {document : Doc} {text : String} :
    document.string name = some text ↔ document name = some (.string text) := by
  unfold Doc.string
  split <;> simp_all

theorem int_of_some {document : Doc} {number : Int} (named : document name = some (.int number)) :
    document.int name = some number := by
  simp [Doc.int, named, Value.asInt]

end Fields

/-- The documents of one collection, by id. -/
abbrev Collection := AList fun _ : String => Doc

abbrev Store (C : Type) := C → Collection

/-- The address of a document. -/
structure Ref (C : Type) where
  collection : C
  id : String
  deriving DecidableEq

variable {C : Type}

def get (store : Store C) (ref : Ref C) : Option Doc := (store ref.collection).lookup ref.id

/-- The documents of a collection whose field has this value, which is not a number: an integer and
a double that equal each other would be found by one another. -/
def whereField (store : Store C) (collection : C) (name : String) (value : Value) : List Doc :=
  ((store collection).entries.map Sigma.snd).filter fun document => document name == some value

/-- A query returns exactly the stored documents with the value. -/
theorem mem_whereField {store : Store C} {collection : C} {name : String} {value : Value}
    {document : Doc} :
    document ∈ whereField store collection name value ↔
      (∃ id, get store ⟨collection, id⟩ = some document) ∧ document name = some value := by
  simp only [whereField, List.mem_filter, List.mem_map, beq_iff_eq]
  refine and_congr_left fun _ => ?_
  constructor
  · rintro ⟨⟨id, held⟩, present, rfl⟩
    exact ⟨id, AList.mem_lookup_iff.mpr present⟩
  · rintro ⟨id, held⟩
    exact ⟨⟨id, document⟩, AList.mem_lookup_iff.mp held, rfl⟩

/-- Of entries with different ids, the documents found are the one with the id. -/
theorem filter_of_id {entries : List ((_ : String) × Doc)} (once : entries.NodupKeys)
    {found : Doc → Bool} {key : String}
    (keyed : ∀ entry ∈ entries, found entry.2 = true ↔ entry.1 = key) :
    (entries.map Sigma.snd).filter found = (entries.dlookup key).toList := by
  induction entries with
  | nil => rfl
  | cons first rest ih =>
    obtain ⟨id, document⟩ := first
    obtain ⟨fresh, once⟩ := List.nodupKeys_cons.mp once
    have later := ih once fun entry listed => keyed entry (List.mem_cons_of_mem _ listed)
    have here : found document = true ↔ id = key := keyed ⟨id, document⟩ List.mem_cons_self
    by_cases same : id = key
    · subst same
      rw [List.dlookup_eq_none.mpr fresh] at later
      simp [here.mpr rfl, later]
    · have passed : found document = false := by simpa [same] using here
      have apart : key ≠ (⟨id, document⟩ : (_ : String) × Doc).1 := Ne.symm same
      simp [passed, later, List.dlookup_cons_ne _ _ apart]

/-- A query for the documents with a value that only the one under some id has. -/
theorem whereField_of_id {store : Store C} {collection : C} {name key : String} {value : Value}
    (keyed : ∀ id document, get store ⟨collection, id⟩ = some document →
      (document name = some value ↔ id = key)) :
    whereField store collection name value = (get store ⟨collection, key⟩).toList := by
  refine filter_of_id (store collection).nodupKeys fun entry listed => ?_
  rw [beq_iff_eq]
  exact keyed entry.1 entry.2 (AList.mem_lookup_iff.mpr listed)

section Store

variable [DecidableEq C] {store : Store C} {ref other : Ref C} {document : Doc}

/-- Writing a whole document. -/
def set (store : Store C) (ref : Ref C) (document : Doc) : Store C :=
  Function.update store ref.collection ((store ref.collection).insert ref.id document)

/-- Writing into a document, which is created if there is none. -/
def setMerging (store : Store C) (ref : Ref C) (document : Doc) : Store C :=
  set store ref (mergeInto document (get store ref))

@[simp] theorem get_set_self : get (set store ref document) ref = some document := by
  simp [get, set]

theorem get_set_ne (different : other ≠ ref) :
    get (set store ref document) other = get store other := by
  by_cases same : other.collection = ref.collection
  · have apart : other.id ≠ ref.id := fun equal => different (by
      cases other; cases ref; simp_all)
    simp [get, set, same, AList.lookup_insert_ne apart]
  · simp [get, set, Function.update_of_ne same]

@[simp] theorem get_setMerging_self :
    get (setMerging store ref document) ref = some (mergeInto document (get store ref)) :=
  get_set_self

theorem get_setMerging_ne (different : other ≠ ref) :
    get (setMerging store ref document) other = get store other :=
  get_set_ne different

end Store

end Documents
