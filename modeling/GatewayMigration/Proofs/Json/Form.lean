import GatewayMigration.Proofs.Json

/-!
# The forms of records

A type of records has one function that reads its values and one that writes them. What the one
writes, the other reads back. Reading is more generous than writing: members that are not declared
do not count, and a member may be missing or have the value that stands for a missing one. Writing
leaves all of this out, so that a value that is read and written is in a form that stays as it is.

## Main definitions

* `Json.Reads`: what is written is read back
* `Json.Presence`, `Json.Alike`, `Json.Trimmed`: members that may be missing, objects that say the
  same, and objects that say nothing more than they have to
* `Json.Form`: how the values of a type are written and read
* `Json.RoundTrips`: values are read back, and settle when they are written

## Main results

* `Json.required_written`, `Json.optional_written`, `Json.defaulted_written`: members of a written
  object are read back
* `Json.trimmed_object`: only what is declared and set is written
* `Json.Form.roundTrips`: the values of a type with a form are read back, and settle
-/

namespace GatewayMigration.Json

variable {α β : Type} {read : Json → Option α} {write : α → Json}

/-- What is written is read back, and null is not written. -/
structure Reads (read : Json → Option α) (write : α → Json) : Prop where
  read_write : ∀ x, read (write x) = some x
  ne_null : ∀ x, write x ≠ .null

/-! ### Simple values -/

theorem reads_string : Reads string? .str where
  read_write _ := rfl
  ne_null := by simp

theorem reads_int64 : Reads int64? ofInt64 where
  read_write n := by
    have hlower := n.le_toInt
    have hupper := n.toInt_lt
    rw [int64?, ofInt64, intWithin?, if_pos (by omega), Option.map_some, Int64.ofInt_toInt]
  ne_null := by simp [ofInt64]

theorem reads_uint16 : Reads uint16? ofUInt16 where
  read_write n := by
    have hupper := n.toNat_lt
    rw [uint16?, ofUInt16, intWithin?, if_pos (by omega), Option.map_some, Int.toNat_natCast,
      UInt16.ofNat_toNat]
  ne_null := by simp [ofUInt16]

/-- The name of a variant is read back if the variant is. -/
theorem reads_unitVariant {text : α → String} {ofText? : String → Option α}
    (h : ∀ x, ofText? (text x) = some x) :
    Reads (fun j => j.unitVariant?.bind ofText?) fun x => .str (text x) where
  read_write := h
  ne_null := by simp

/-- A list is read back if its items are. -/
theorem reads_listOf (h : Reads read write) :
    Reads (listOf? read) fun l => .arr (l.map write) where
  read_write l := by
    show (l.map write).mapM read = some l
    induction l with
    | nil => rfl
    | cons a l ih =>
      rw [List.map_cons, List.mapM_cons, h.read_write, ih]
      rfl
  ne_null := by simp

/-! ### Members that may be missing -/

/-- How a member of a record counts. -/
inductive Presence where
  | required
  /-- The member may be missing, and null stands for a missing one. -/
  | optional
  /-- The member may be missing, and the empty list stands for a missing one. -/
  | listed

/-- The value that stands for a missing member. -/
def Presence.omitted : Presence → Option Json
  | .required => none
  | .optional => some .null
  | .listed => some (.arr [])

/-- What a member says, if it is there and does not stand for a missing one. -/
def Presence.said (p : Presence) (v : Option Json) : Option Json :=
  v.filter fun j => some j ≠ p.omitted

variable {declared : List (String × Presence)} {m m' : Fields} {k : String}

/-- Two objects say the same about the declared members. -/
def Alike (declared : List (String × Presence)) (m m' : Fields) : Prop :=
  ∀ d ∈ declared, d.2.said (lookup d.1 m) = d.2.said (lookup d.1 m')

/-- An object has declared members only, and none of them stands for a missing one. -/
def Trimmed (declared : List (String × Presence)) (j : Json) : Prop :=
  ∃ m, j = .obj m ∧ ∀ e ∈ m, ∃ p, (e.1, p) ∈ declared ∧ some e.2 ≠ p.omitted

theorem said_required (v : Option Json) : Presence.required.said v = v := by
  cases v <;> rfl

theorem optional_eq (read : Json → Option α) (m : Fields) (k : String) :
    m.optional read k =
      (Presence.optional.said (lookup k m)).elim (some none) fun v => (read v).map some := by
  unfold Fields.optional
  split
  case h_1 h => rw [h]; rfl
  case h_2 h => rw [h]; rfl
  case h_3 v hnull h =>
    rw [h, Presence.said, Option.filter_some, if_pos (by simpa [Presence.omitted] using hnull),
      Option.elim_some]

theorem defaulted_eq (read : Json → Option α) (m : Fields) (k : String) :
    m.defaulted [] (listOf? read) k =
      (Presence.listed.said (lookup k m)).elim (some []) (listOf? read) := by
  unfold Fields.defaulted
  split
  case h_1 h => rw [h]; rfl
  case h_2 v h =>
    rw [h, Presence.said, Option.filter_some]
    split
    case isTrue => rfl
    case isFalse hempty =>
      -- the empty list is read as what a missing one is read as
      obtain rfl : v = .arr [] := by simpa [Presence.omitted] using hempty
      rfl

theorem record?_obj (names : List String) (m : Fields) :
    (Json.obj m).record? names = some m := rfl

/-- Objects of one variant are read alike if what they carry is. -/
theorem variant?_bind_congr {f : String × Json → Option α} (h : lookup k m = lookup k m')
    (hf : ∀ name, f (name, .obj m) = f (name, .obj m')) :
    (Json.obj m).variant? k >>= f = (Json.obj m').variant? k >>= f := by
  show (((lookup k m).bind string?).map (·, Json.obj m)).bind f =
    (((lookup k m').bind string?).map (·, Json.obj m')).bind f
  rw [h]
  cases (lookup k m').bind string? with
  | none => rfl
  | some name => exact hf name

/-! ### Written objects -/

variable {members : List (String × Option Json)}

/-- The members of a written object. -/
def written (members : List (String × Option Json)) : Fields :=
  (OrderedMap.ofList (members.filterMap fun m => m.2.map (m.1, ·))).entries

theorem record?_object (names : List String) (members : List (String × Option Json)) :
    (object members).record? names = some (written members) := rfl

theorem fields?_object (members : List (String × Option Json)) :
    (object members).fields? = some (written members) := rfl

/-- A member whose key is named once is found again. -/
theorem lookup_written {v : Option Json} (h : members.filter (fun m => m.1 = k) = [(k, v)]) :
    lookup k (written members) = v := by
  -- leaving members out and looking for the key can be done in either order
  have hfilter : (members.filterMap fun m => m.2.map (m.1, ·)).filter (fun m => m.1 = k) =
      (members.filter fun m => m.1 = k).filterMap fun m => m.2.map (m.1, ·) := by
    rw [List.filter_filterMap, List.filterMap_filter]
    apply List.filterMap_congr
    intro m _
    cases m.2 <;> simp [Option.filter_some]
  have hfield := field?_object members k
  rw [hfilter, h] at hfield
  refine hfield.trans ?_
  cases v <;> rfl

/-- A written object names its variant. -/
theorem variant?_object (name : String)
    (h : members.filter (fun m => m.1 = k) = [(k, some (.str name))]) :
    (object members).variant? k = some (name, object members) := by
  show ((lookup k (written members)).bind string?).map (·, object members) = _
  rw [lookup_written h]
  rfl

theorem required_of_present {v : Json}
    (h : members.filter (fun m => m.1 = k) = [(k, some v)]) :
    (written members).required read k = read v := by
  rw [Fields.required, lookup_written h, Option.bind_some]

theorem required_written (hread : Reads read write) (x : α)
    (h : members.filter (fun m => m.1 = k) = [(k, some (write x))]) :
    (written members).required read k = some x := by
  rw [required_of_present h, hread.read_write]

theorem optional_of_absent (h : members.filter (fun m => m.1 = k) = [(k, none)]) :
    (written members).optional read k = some none := by
  rw [Fields.optional, lookup_written h]

/-- An option that is absent leaves its member out. -/
theorem optional_written (hread : Reads read write) (x : Option α)
    (h : members.filter (fun m => m.1 = k) = [(k, x.map write)]) :
    (written members).optional read k = some x := by
  cases x with
  | none => exact optional_of_absent h
  | some x =>
    -- the value is not null, so that it does not stand for a missing one
    have hsaid : Presence.optional.said (some (write x)) = some (write x) := by
      simpa [Presence.said, Presence.omitted] using hread.ne_null x
    rw [optional_eq, lookup_written h, Option.map_some, hsaid, Option.elim_some,
      hread.read_write, Option.map_some]

/-- A list that is empty leaves its member out. -/
theorem defaulted_written (hread : Reads read write) (l : List α)
    (h : members.filter (fun m => m.1 = k) = [(k, ofNonempty (l.map write))]) :
    (written members).defaulted [] (listOf? read) k = some l := by
  rw [Fields.defaulted, lookup_written h]
  cases l with
  | nil => rfl
  | cons a l => exact (reads_listOf hread).read_write (a :: l)

/-- Reading goes on with what was read. -/
theorem read_bind {o : Option α} {f : α → Option β} {a : α} {b : β} (ho : o = some a)
    (hf : f a = some b) : o >>= f = some b := by
  rw [ho]
  exact hf

/-- An empty list is not written. -/
theorem ne_of_ofNonempty_eq (l : List Json) : ∀ v, ofNonempty l = some v → v ≠ .arr [] := by
  cases l <;> simp [ofNonempty]

/-- A written object has the members that are present, if they are declared. -/
theorem trimmed_object (h : ∀ e ∈ members, ∃ p, (e.1, p) ∈ declared ∧
    ∀ v, e.2 = some v → some v ≠ p.omitted) : Trimmed declared (object members) := by
  refine ⟨_, rfl, ?_⟩
  intro e he
  obtain ⟨d, hd, hsome⟩ := List.mem_filterMap.mp (OrderedMap.mem_of_mem_ofList he)
  obtain ⟨v, hv, rfl⟩ := Option.map_eq_some_iff.mp hsome
  obtain ⟨p, hp, hset⟩ := h d hd
  exact ⟨p, hp, hset v hv⟩

/-! ### Forms -/

/-- How the values of a type are written and read. -/
structure Form (read : Json → Option α) (write : α → Json) (declared : List (String × Presence)) :
    Prop where
  /-- What is written is read back. -/
  read_write : ∀ x, read (write x) = some x
  /-- Only declared members are written, and none of them stands for a missing one. -/
  trimmed : ∀ x, Trimmed declared (write x)
  /-- Reading an object depends on what it says about the declared members. -/
  alike : ∀ m m', Alike declared m m' → read (.obj m) = read (.obj m')

theorem Form.reads (h : Form read write declared) : Reads read write where
  read_write := h.read_write
  ne_null x := by
    obtain ⟨m, hm, -⟩ := h.trimmed x
    rw [hm]
    exact Json.noConfusion

/-- The form in which a value is written after it was read. -/
def normal? (read : Json → Option α) (write : α → Json) (v : Json) : Option Json :=
  (read v).map write

/-- Values are read back after they were written, and settle when they are written after they were
read. -/
structure RoundTrips (read : Json → Option α) (write : α → Json)
    (declared : List (String × Presence)) : Prop where
  /-- What is written is read back. -/
  read_write : ∀ x, read (write x) = some x
  /-- What is read is written in a form that is read as before, that is written as it is, and that
  has nothing else than the declared members that are set. -/
  settles : ∀ v w, normal? read write v = some w →
    read w = read v ∧ normal? read write w = some w ∧ Trimmed declared w
  /-- Objects have one such form if they say the same about the declared members. -/
  alike : ∀ m m', Alike declared m m' → normal? read write (.obj m) = normal? read write (.obj m')

theorem Form.roundTrips (h : Form read write declared) : RoundTrips read write declared where
  read_write := h.read_write
  settles v w hw := by
    obtain ⟨x, hx, rfl⟩ := Option.map_eq_some_iff.mp hw
    have hback := h.read_write x
    refine ⟨hback.trans hx.symm, ?_, h.trimmed x⟩
    rw [normal?, hback, Option.map_some]
  alike m m' hsame := by rw [normal?, normal?, h.alike m m' hsame]

end GatewayMigration.Json
