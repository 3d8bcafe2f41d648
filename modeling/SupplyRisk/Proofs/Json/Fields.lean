import SupplyRisk.Entity
import SupplyRisk.Proofs.Json.RoundTrip
import SupplyRisk.Score

/-!
# Reading back the fields of records

An object with exactly the known names is a record with its members as fields (`bind_record?_object`), and a field is
what its name was written with.  Numbers of each width, identities, scores and references to entities are read back
from what they are written as; so are lists and values that may be absent, if their elements are.
-/

namespace SupplyRisk

/-- A number of 32 bits is one of 64 bits with sign. -/
theorem Word.holdsSigned_of_lt {n : Nat} (hn : n < 4294967296) : holdsSigned Word.count64 n = true := by
  have hhalf : Word.count64 / 2 = 9223372036854775808 := rfl
  rw [holdsSigned, hhalf, Bool.and_eq_true, decide_eq_true_eq, decide_eq_true_eq]
  constructor <;> omega

namespace Document

theorem record?_object {names : List String} {members : List (String × Json)} (hnames : members.map (·.1) = names)
    (hnodup : names.Nodup) : record? names (Json.object members) = some ⟨members⟩ := by
  have hknown : members.filter (fun m => names.contains m.1) = members := by
    refine List.filter_eq_self.2 fun m hm => ?_
    rw [List.contains_iff_mem, ← hnames]
    exact List.mem_map_of_mem hm
  show (Json.knownMembers? names members).map Fields.mk = _
  rw [Json.knownMembers?, hknown, hnames, if_pos hnodup, Option.map_some]

/-- A record is read from the fields that it was written with. -/
theorem bind_record?_object {α : Type} {names : List String} {members : List (String × Json)}
    (hnames : members.map (·.1) = names) (hnodup : names.Nodup) (next : Fields Json → Option α) :
    (record? names (Json.object members) >>= next) = next ⟨members⟩ := by
  rw [record?_object hnames hnodup, Option.bind_eq_bind, Option.bind_some]

@[simp] theorem text?_string (s : String) : text? (Json.string s) = some s := rfl

@[simp] theorem flag?_bool (b : Bool) : flag? (Json.bool b) = some b := rfl

@[simp] theorem isNull_string (s : String) : isNull (Json.string s) = false := rfl

@[simp] theorem isNull_nat (n : Nat) : isNull (Json.nat n) = false := rfl

@[simp] theorem isNull_object (members : List (String × Json)) : isNull (Json.object members) = false := rfl

@[simp] theorem integer?_nat (n : Nat) : integer? (Json.nat n) = some (n : Int) := by
  show (Decimal.Numeral.ofNat n).int? = some (n : Int)
  simp [Decimal.Numeral.int?, Decimal.Numeral.isWhole, Decimal.Numeral.ofNat]

theorem below?_nat {limit n : Nat} (hn : n < limit) : below? limit (Json.nat n) = some n := by
  simp [below?, hn]

@[simp] theorem uint8?_nat (n : UInt8) : uint8? (Json.nat n.toNat) = some n := by
  rw [uint8?, below?_nat n.toNat_lt, Option.map_some, UInt8.ofNat_toNat]

@[simp] theorem uint32?_nat (n : UInt32) : uint32? (Json.nat n.toNat) = some n := by
  rw [uint32?, below?_nat n.toNat_lt, Option.map_some, UInt32.ofNat_toNat]

@[simp] theorem uint64?_nat (n : UInt64) : uint64? (Json.nat n.toNat) = some n := by
  rw [uint64?, below?_nat n.toNat_lt, Option.map_some, UInt64.ofNat_toNat]

@[simp] theorem uint64?_idJson (n : UInt64) : uint64? (idJson n) = some n := uint64?_nat n

@[simp] theorem isNull_idJson (n : UInt64) : isNull (idJson n) = false := rfl

variable {α β : Type} {write : α → Json}

/-- A list may be read as something else than it was written as. -/
theorem list?_ofList_map {read : Json → Option β} {g : α → β} {as : List α}
    (hread : ∀ a ∈ as, read (write a) = some (g a)) : list? read (Json.ofList write as) = some (as.map g) := by
  show (as.map write).mapM read = some (as.map g)
  induction as with
  | nil => rfl
  | cons a as ih =>
      have ha := hread a (by simp)
      have has := ih fun b hb => hread b (by simp [hb])
      simp [List.mapM_cons, ha, has]

@[simp] theorem list?_ofList {read : Json → Option α} {as : List α} (hread : ∀ a ∈ as, read (write a) = some a) :
    list? read (Json.ofList write as) = some as := by
  simpa using list?_ofList_map (g := id) hread

end Document

namespace Fields

variable {α : Type} {name other : String} {j : Json} {members : List (String × Json)} {read : Json → Option α}

theorem find?_cons_self : (⟨(name, j) :: members⟩ : Fields Json).find? name = some j := by
  simp [find?]

theorem find?_cons_of_ne (h : name ≠ other) :
    (⟨(other, j) :: members⟩ : Fields Json).find? name = (⟨members⟩ : Fields Json).find? name := by
  have hne : (name == other) = false := beq_eq_false_iff_ne.2 h
  simp [find?, List.lookup_cons, hne]

@[simp] theorem required_cons_self : required ⟨(name, j) :: members⟩ name read = read j := by
  rw [required, find?_cons_self, Option.bind_some]

@[simp] theorem required_cons_of_ne (h : name ≠ other) :
    required ⟨(other, j) :: members⟩ name read = required ⟨members⟩ name read := by
  rw [required, find?_cons_of_ne h, required]

@[simp] theorem withDefault_cons_self {default : α} :
    withDefault ⟨(name, j) :: members⟩ name read default = read j := by
  rw [withDefault, find?_cons_self]

@[simp] theorem withDefault_cons_of_ne {default : α} (h : name ≠ other) :
    withDefault ⟨(other, j) :: members⟩ name read default = withDefault ⟨members⟩ name read default := by
  rw [withDefault, find?_cons_of_ne h, withDefault]

@[simp] theorem optional_cons_of_ne (h : name ≠ other) :
    optional ⟨(other, j) :: members⟩ name read = optional ⟨members⟩ name read := by
  rw [optional, find?_cons_of_ne h, optional]

/-- A value that may be absent is read if values are and none is written as null. -/
theorem optional_cons_map {β : Type} {write : β → Json} {g : β → α} {o : Option β}
    (hread : ∀ b, read (write b) = some (g b)) (hnull : ∀ b, Document.isNull (write b) = false) :
    optional ⟨(name, Json.ofOption write o) :: members⟩ name read = some (o.map g) := by
  rw [optional, find?_cons_self]
  cases o with
  | none => rfl
  | some b => simp [Json.ofOption, hread, hnull]

@[simp] theorem optional_cons_self {write : α → Json} {o : Option α} (hread : ∀ a, read (write a) = some a)
    (hnull : ∀ a, Document.isNull (write a) = false) :
    optional ⟨(name, Json.ofOption write o) :: members⟩ name read = some o := by
  simpa using optional_cons_map (g := id) hread hnull

end Fields

/-! ## Identities and scores -/

@[simp] theorem legible_idJson (n : UInt64) : (idJson n).legible = true := Json.legible_nat _

@[simp] theorem SupplierId.read?_idJson (id : SupplierId) : SupplierId.read? (idJson id.value) = some id := by
  simp [SupplierId.read?]

@[simp] theorem PartId.read?_idJson (id : PartId) : PartId.read? (idJson id.value) = some id := by
  simp [PartId.read?]

@[simp] theorem AlertId.read?_idJson (id : AlertId) : AlertId.read? (idJson id.value) = some id := by
  simp [AlertId.read?]

@[simp] theorem RecommendationId.read?_idJson (id : RecommendationId) :
    RecommendationId.read? (idJson id.value) = some id := by
  simp [RecommendationId.read?]

@[simp] theorem EventId.read?_idJson (id : EventId) : EventId.read? (idJson id.value) = some id := by
  simp [EventId.read?]

theorem EntityKind.ofText?_text (k : EntityKind) : EntityKind.ofText? k.text = some k := by
  cases k <;> rfl

theorem EntityRef.ofKind_kind_id (e : EntityRef) : EntityRef.ofKind e.kind e.id = e := by
  cases e <;> rfl

theorem EntityRef.ofParts?_text (e : EntityRef) :
    EntityRef.read?.ofParts? (Json.string e.kind.text) (idJson e.id) = some e := by
  rw [EntityRef.read?.ofParts?, Document.text?_string, Document.uint64?_idJson]
  simp only [Option.bind_eq_bind, Option.bind_some, EntityKind.ofText?_text, EntityRef.ofKind_kind_id]

@[simp] theorem EntityRef.read?_toJson (e : EntityRef) : EntityRef.read? e.toJson = some e := by
  -- The reader of entities looks into the members itself, so the steps differ from those of the records.
  have hknown : Json.knownMembers? ["kind", "id"] [("kind", Json.string e.kind.text), ("id", idJson e.id)] =
      some [("kind", Json.string e.kind.text), ("id", idJson e.id)] := rfl
  have hid : List.lookup "id" [("kind", Json.string e.kind.text), ("id", idJson e.id)] = some (idJson e.id) := rfl
  have hread : EntityRef.read? e.toJson =
      (Json.knownMembers? ["kind", "id"] [("kind", Json.string e.kind.text), ("id", idJson e.id)]).bind
        fun known => (known.lookup "kind").bind fun kind => (known.lookup "id").bind fun id =>
          EntityRef.read?.ofParts? kind id := rfl
  rw [hread, hknown, Option.bind_some, List.lookup_cons_self, Option.bind_some, hid, Option.bind_some,
    EntityRef.ofParts?_text]

@[simp] theorem EntityRef.legible_toJson (e : EntityRef) : e.toJson.legible = true := by simp [EntityRef.toJson]

@[simp] theorem Score.read?_toJson (s : Score) : Score.read? s.toJson = some s := by
  obtain ⟨value, hvalue⟩ := s
  have hheld := Word.holdsSigned_of_lt (n := value) (by omega)
  have hscore : Score.ofInt? (value : Int) = some ⟨value, hvalue⟩ := by
    rw [Score.ofInt?, dif_pos (by omega)]
    simp
  rw [Score.read?, Score.toJson, Document.int64?, Document.integer?_nat, Option.bind_some, if_pos hheld,
    Option.bind_some, hscore]

@[simp] theorem Score.legible_toJson (s : Score) : s.toJson.legible = true := Json.legible_nat _

end SupplyRisk
