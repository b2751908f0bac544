import Mathlib.Data.List.Basic
import Platen.Value.Json

/-!
# What JSON keeps of a value

A value that is written as JSON and read again comes back in a normal form: dates have become texts,
objects the maps of their listed properties, and numbers that are not finite are missing.
Everything else is kept, the order of lists, the names of entries and the difference between
integers and floating-point numbers included.  In the other direction a document comes back as it
was.

Main results:

- Definition `Value.normal`: the normal form.
- Theorem `Value.normal_eq_self_iff`: which values are in normal form.
- Theorems `Value.ofJson_toJson` and `Value.toJson_ofJson`: the two ways there and back.
- Theorem `Value.json_roundTrips`: both of them, and what they leave unchanged.
-/

namespace Platen

/-! ## Parts of values -/

namespace Value

/-- A value contains itself and what its items, its entries and its properties contain. -/
inductive Contains : Value → Value → Prop where
  | self (v : Value) : Contains v v
  | item {items : List Value} {v u : Value} (hv : v ∈ items) (hu : Contains v u) :
      Contains (list items) u
  | entry {entries : List (String × Value)} {e : String × Value} {u : Value} (he : e ∈ entries)
      (hu : Contains e.2 u) : Contains (map entries) u
  | property {handle : Nat} {properties operations : List (String × Value)} {names : List String}
      {e : String × Value} {u : Value} (he : e ∈ properties) (hu : Contains e.2 u) :
      Contains (object handle properties operations names) u

/-- Induction on what a value contains. -/
@[elab_as_elim]
theorem induction {motive : Value → Prop} (null : motive null) (bool : ∀ b, motive (bool b))
    (int : ∀ i, motive (int i)) (float : ∀ x, motive (float x)) (text : ∀ s, motive (text s))
    (date : ∀ d, motive (date d))
    (list : ∀ items, (∀ v ∈ items, motive v) → motive (list items))
    (map : ∀ entries, (∀ e ∈ entries, motive e.2) → motive (map entries))
    (object : ∀ handle properties operations names, (∀ e ∈ properties, motive e.2) →
      motive (object handle properties operations names)) (v : Value) : motive v :=
  @Value.rec motive (fun items => ∀ v ∈ items, motive v) (fun entries => ∀ e ∈ entries, motive e.2)
    (fun e => motive e.2) null bool int float text date list map
    -- what an object answers to operations is not a part of it
    (fun handle properties operations names hproperties _ =>
      object handle properties operations names hproperties)
    (List.forall_mem_nil _) (fun _ _ hv hitems => List.forall_mem_cons.mpr ⟨hv, hitems⟩)
    (List.forall_mem_nil _) (fun _ _ he hentries => List.forall_mem_cons.mpr ⟨he, hentries⟩)
    (fun _ _ hv => hv) v

/-! ## The JSON form, part by part -/

/-- The items of a list are turned into documents one by one. -/
theorem itemsToJson_eq_map (items : List Value) : itemsToJson items = items.map toJson := by
  induction items with
  | nil => rfl
  | cons item items ih => rw [itemsToJson, ih, List.map_cons]

/-- So are the values in a map. -/
theorem entriesToJson_eq_map (entries : List (String × Value)) :
    entriesToJson entries = entries.map (Prod.map id toJson) := by
  induction entries with
  | nil => rfl
  | cons entry entries ih => rw [entriesToJson, ih]; rfl

/-- The items of a document are read one by one. -/
theorem itemsOfJson_eq_map (items : List Json) : itemsOfJson items = items.map ofJson := by
  induction items with
  | nil => rfl
  | cons item items ih => rw [itemsOfJson, ih, List.map_cons]

/-- So are its members. -/
theorem entriesOfJson_eq_map (members : List (String × Json)) :
    entriesOfJson members = members.map (Prod.map id ofJson) := by
  induction members with
  | nil => rfl
  | cons member members ih => rw [entriesOfJson, ih]; rfl

/-- An object is written as the map of its listed properties; one that it does not answer is
null. -/
theorem toJson_object (handle : Nat) (properties operations : List (String × Value))
    (names : List String) :
    (object handle properties operations names).toJson = .object (Entries.ofList
      (names.map fun name => (name, ((properties.lookup name).map toJson).getD .null))) := by
  simp only [toJson, entriesToJson_eq_map, Entries.lookup_map]

/-! ## The normal form -/

mutual
/-- What JSON keeps of a value. -/
def normal : Value → Value
  | null => null
  | bool b => bool b
  | int i => int i
  | float x => if Decimal.isFinite x then float x else null
  | text s => text s
  | date d => text d.toText
  | list items => list (normalItems items)
  | map entries => map (normalEntries entries)
  | object _ properties _ names =>
      let kept := normalEntries properties
      map (Entries.ofList (names.map fun name => (name, (kept.lookup name).getD null)))

/-- What JSON keeps of the items of a list. -/
def normalItems : List Value → List Value
  | [] => []
  | item :: items => normal item :: normalItems items

/-- What JSON keeps of named values. -/
def normalEntries : List (String × Value) → List (String × Value)
  | [] => []
  | (name, value) :: rest => (name, normal value) :: normalEntries rest
end

/-- A list is in normal form item by item. -/
theorem normalItems_eq_map (items : List Value) : normalItems items = items.map normal := by
  induction items with
  | nil => rfl
  | cons item items ih => rw [normalItems, ih, List.map_cons]

/-- A map is in normal form entry by entry. -/
theorem normalEntries_eq_map (entries : List (String × Value)) :
    normalEntries entries = entries.map (Prod.map id normal) := by
  induction entries with
  | nil => rfl
  | cons entry entries ih => rw [normalEntries, ih]; rfl

/-- The normal form of an object is the map of the properties that it lists. -/
theorem normal_object (handle : Nat) (properties operations : List (String × Value))
    (names : List String) :
    (object handle properties operations names).normal = map (Entries.ofList
      (names.map fun name => (name, ((properties.lookup name).map normal).getD null))) := by
  simp only [normal, normalEntries_eq_map, Entries.lookup_map]

/-- The values that JSON has no form for: dates, objects and numbers that are not finite. -/
def isForeign : Value → Bool
  | date _ | object .. => true
  | float x => !Decimal.isFinite x
  | _ => false

/-- Values that contain nothing foreign are in normal form. -/
theorem normal_eq_self {v : Value} (hv : ∀ u, v.Contains u → u.isForeign = false) :
    v.normal = v := by
  induction v using Value.induction with
  | float x => simpa [isForeign, normal] using hv _ (.self _)
  | list items ih =>
      have hitems : items.map normal = items := by
        conv_rhs => rw [← List.map_id items]
        exact List.map_congr_left fun v hmem => ih v hmem fun u hu => hv u (.item hmem hu)
      rw [normal, normalItems_eq_map, hitems]
  | map entries ih =>
      have hentries : entries.map (Prod.map id normal) = entries := by
        conv_rhs => rw [← List.map_id entries]
        exact List.map_congr_left fun e hmem =>
          Prod.ext rfl (ih e hmem fun u hu => hv u (.entry hmem hu))
      rw [normal, normalEntries_eq_map, hentries]
  | date d => cases hv _ (.self _)
  | object handle properties operations names ih => cases hv _ (.self _)
  | _ => rfl

/-- The normal form contains nothing foreign. -/
theorem isForeign_of_normal_contains {v u : Value} (hu : v.normal.Contains u) :
    u.isForeign = false := by
  induction v using Value.induction with
  | float x =>
      rw [normal] at hu
      split at hu
      · next hx => cases hu; simp [isForeign, hx]
      · cases hu; rfl
  | list items ih =>
      rw [normal, normalItems_eq_map] at hu
      cases hu with
      | self => rfl
      | item hmem hu =>
          rcases List.mem_map.mp hmem with ⟨v, hv, rfl⟩
          exact ih v hv hu
  | map entries ih =>
      rw [normal, normalEntries_eq_map] at hu
      cases hu with
      | self => rfl
      | entry hmem hu =>
          rcases List.mem_map.mp hmem with ⟨e, he, rfl⟩
          exact ih e he hu
  | object handle properties operations names ih =>
      rw [normal_object] at hu
      cases hu with
      | self => rfl
      | entry hmem hu =>
          rcases List.mem_map.mp (Entries.mem_ofList hmem) with ⟨name, -, rfl⟩
          cases hname : properties.lookup name with
          | none => rw [hname] at hu; cases hu; rfl
          | some v => rw [hname] at hu; exact ih _ (Entries.mem_of_lookup hname) hu
  | _ => cases hu; rfl

/-- The values in normal form are those that contain no date, no object and no number that is not
finite. -/
theorem normal_eq_self_iff (v : Value) :
    v.normal = v ↔ ∀ u, v.Contains u → u.isForeign = false := by
  refine ⟨fun hv u hu => ?_, normal_eq_self⟩
  rw [← hv] at hu
  exact isForeign_of_normal_contains hu

/-- A normal form is its own normal form. -/
theorem normal_normal (v : Value) : v.normal.normal = v.normal :=
  normal_eq_self fun _ hu => isForeign_of_normal_contains hu

/-! ## There and back -/

/-- A value comes back from JSON in normal form, if its integers have 64 bits. -/
theorem ofJson_toJson {v : Value} (hv : ∀ i, v.Contains (int i) → Bits.signed 64 i = true) :
    ofJson v.toJson = v.normal := by
  induction v using Value.induction with
  | int i => rw [toJson, ofJson, if_pos (hv i (.self _)), normal]
  | float x =>
      rw [toJson, normal]
      split <;> rfl
  | list items ih =>
      have hitems : (items.map toJson).map ofJson = items.map normal := by
        rw [List.map_map]
        exact List.map_congr_left fun v hmem => ih v hmem fun i hi => hv i (.item hmem hi)
      rw [toJson, ofJson, normal, itemsToJson_eq_map, itemsOfJson_eq_map, normalItems_eq_map,
        hitems]
  | map entries ih =>
      have hentries : (entries.map (Prod.map id toJson)).map (Prod.map id ofJson) =
          entries.map (Prod.map id normal) := by
        rw [List.map_map]
        exact List.map_congr_left fun e hmem =>
          Prod.ext rfl (ih e hmem fun i hi => hv i (.entry hmem hi))
      rw [toJson, ofJson, normal, entriesToJson_eq_map, entriesOfJson_eq_map, normalEntries_eq_map,
        hentries]
  | object handle properties operations names ih =>
      rw [toJson_object, normal_object, ofJson, entriesOfJson_eq_map, Entries.map_ofList,
        List.map_map]
      refine congrArg (fun pairs => map (Entries.ofList pairs))
        (List.map_congr_left fun name _ => Prod.ext rfl ?_)
      show ofJson (((properties.lookup name).map toJson).getD .null) =
        ((properties.lookup name).map normal).getD null
      cases hname : properties.lookup name with
      | none => rfl
      | some v =>
          have hmem := Entries.mem_of_lookup hname
          exact ih _ hmem fun i hi => hv i (.property hmem hi)
  | _ => rfl

end Value

namespace Json

/-- A document contains itself and what its items and its members contain. -/
inductive Contains : Json → Json → Prop where
  | self (j : Json) : Contains j j
  | item {items : List Json} {j k : Json} (hj : j ∈ items) (hk : Contains j k) :
      Contains (list items) k
  | member {members : List (String × Json)} {m : String × Json} {k : Json} (hm : m ∈ members)
      (hk : Contains m.2 k) : Contains (object members) k

/-- Induction on what a document contains. -/
@[elab_as_elim]
theorem induction {motive : Json → Prop} (null : motive null) (bool : ∀ b, motive (bool b))
    (int : ∀ i, motive (int i)) (float : ∀ x, motive (float x)) (text : ∀ s, motive (text s))
    (list : ∀ items, (∀ j ∈ items, motive j) → motive (list items))
    (object : ∀ members, (∀ m ∈ members, motive m.2) → motive (object members)) (j : Json) :
    motive j :=
  @Json.rec motive (fun items => ∀ j ∈ items, motive j) (fun members => ∀ m ∈ members, motive m.2)
    (fun m => motive m.2) null bool int float text list object
    (List.forall_mem_nil _) (fun _ _ hj hitems => List.forall_mem_cons.mpr ⟨hj, hitems⟩)
    (List.forall_mem_nil _) (fun _ _ hm hmembers => List.forall_mem_cons.mpr ⟨hm, hmembers⟩)
    (fun _ _ hj => hj) j

end Json

namespace Value

/-- A document comes back as it was, if its integers have 64 bits and its other numbers are
finite. -/
theorem toJson_ofJson {j : Json} (hint : ∀ i, j.Contains (.int i) → Bits.signed 64 i = true)
    (hfloat : ∀ x, j.Contains (.float x) → Decimal.isFinite x = true) : (ofJson j).toJson = j := by
  induction j using Json.induction with
  | int i => rw [ofJson, if_pos (hint i (.self _)), toJson]
  | float x => rw [ofJson, toJson, if_pos (hfloat x (.self _))]
  | list items ih =>
      have hitems : (items.map ofJson).map toJson = items := by
        conv_rhs => rw [← List.map_id items]
        rw [List.map_map]
        exact List.map_congr_left fun j hmem => ih j hmem
          (fun i hi => hint i (.item hmem hi)) fun x hx => hfloat x (.item hmem hx)
      rw [ofJson, toJson, itemsOfJson_eq_map, itemsToJson_eq_map, hitems]
  | object members ih =>
      have hmembers : (members.map (Prod.map id ofJson)).map (Prod.map id toJson) = members := by
        conv_rhs => rw [← List.map_id members]
        rw [List.map_map]
        exact List.map_congr_left fun m hmem => Prod.ext rfl (ih m hmem
          (fun i hi => hint i (.member hmem hi)) fun x hx => hfloat x (.member hmem hx))
      rw [ofJson, toJson, entriesOfJson_eq_map, entriesToJson_eq_map, hmembers]
  | _ => rfl

/-- Values and documents on their way through JSON.  A value whose integers have 64 bits comes back
in normal form, so that it comes back unchanged exactly if it contains no date, no object and no
number that is not finite; the normal form does not change any more.  A document whose integers have
64 bits and whose other numbers are finite is read as a value that is written as this document. -/
theorem json_roundTrips :
    (∀ v : Value, (∀ i, v.Contains (int i) → Bits.signed 64 i = true) →
      ofJson v.toJson = v.normal ∧
      (ofJson v.toJson = v ↔ ∀ u, v.Contains u → u.isForeign = false)) ∧
    (∀ v : Value, v.normal.normal = v.normal) ∧
    (∀ j : Json, (∀ i, j.Contains (.int i) → Bits.signed 64 i = true) →
      (∀ x, j.Contains (.float x) → Decimal.isFinite x = true) → (ofJson j).toJson = j) := by
  refine ⟨fun v hv => ⟨ofJson_toJson hv, ?_⟩, normal_normal, fun j => toJson_ofJson⟩
  rw [ofJson_toJson hv, normal_eq_self_iff]

/-- Half a second after midnight, which is not written as a day alone. -/
def afterMidnight : Date where
  year := 2024
  month := 3
  day := 9
  hour := 0
  minute := 0
  wholeSecond := 0
  nanosecond := 500000000
  month_range := by decide
  day_range := by decide
  time_range := by decide

/-- A list with everything that JSON changes: a date, a number that is not finite, and an object
that lists a property it does not have. -/
def foreignList : Value :=
  list [int (-3), float 10.0, date afterMidnight,
    float (1.0 / 0.0), object 0 [("rate", int 7), ("name", text "emp")] [] ["rate", "name", "age"]]

/-- A document with an integer and a whole number that is none. -/
def ratesDocument : Json :=
  .object [("rates", .list [.int 5, .float 5.0])]

/-- Integers and whole floating-point numbers keep their sorts, and the properties are sorted. -/
theorem json_roundTrips_foreignList :
    (∀ i, foreignList.Contains (int i) → Bits.signed 64 i = true) ∧
    ofJson foreignList.toJson = list [int (-3), float 10.0, text "2024-03-09 00:00:00", null,
      map [("age", null), ("name", text "emp"), ("rate", int 7)]] ∧
    ofJson foreignList.toJson ≠ foreignList ∧ (ofJson ratesDocument).toJson = ratesDocument := by
  have hints : ∀ i, foreignList.Contains (int i) → Bits.signed 64 i = true := by
    intro i hi
    rcases hi with _ | ⟨hmem, hi⟩
    simp only [List.mem_cons, List.not_mem_nil, or_false] at hmem
    rcases hmem with rfl | rfl | rfl | rfl | rfl
    · cases hi; decide
    · cases hi
    · cases hi
    · cases hi
    · rcases hi with _ | _ | _ | ⟨hmem, hi⟩
      simp only [List.mem_cons, List.not_mem_nil, or_false] at hmem
      rcases hmem with rfl | rfl
      · cases hi; decide
      · cases hi
  have hback := json_roundTrips.1 foreignList hints
  refine ⟨hints, ?_, ?_, json_roundTrips.2.2 ratesDocument ?_ ?_⟩
  · have hfinite : Decimal.isFinite 10.0 = true := by decide +kernel
    have hinfinite : Decimal.isFinite (1.0 / 0.0) = false := by decide +kernel
    rw [hback.1]
    simp only [foreignList, normal, normalItems, hfinite, hinfinite, if_true]
    rfl
  · rw [Ne, hback.2]
    intro hplain
    cases hplain (date afterMidnight) (.item (by simp) (.self _))
  · intro i hi
    rcases hi with _ | _ | ⟨hmem, hi⟩
    rw [List.mem_singleton.mp hmem] at hi
    rcases hi with _ | ⟨hmem, hi⟩
    rcases List.mem_pair.mp hmem with rfl | rfl <;> cases hi
    decide
  · intro x hx
    rcases hx with _ | _ | ⟨hmem, hx⟩
    rw [List.mem_singleton.mp hmem] at hx
    rcases hx with _ | ⟨hmem, hx⟩
    rcases List.mem_pair.mp hmem with rfl | rfl <;> cases hx
    decide +kernel

end Value

end Platen
