/-
  Forms of values.

  A shape writes a value as one JSON value (`Shape.encode`).  JSON does not care about the order of
  members, so there are more values that say the same: a form of a value is what the shape writes,
  with the members of each record in whatever order (`Shape.Writes`).

  A shape is faithful when nothing is lost on the way (`Shape.Faithful`): a record is made up again
  of its parts, its fields have different names, a field is left out only where its absence says the
  same, what may be absent is never written as `null` when it is there, and different choices have
  different names.  The main result is that a faithful shape reads every value back from every form
  of it (`Shape.decode_of_writes`).

  The crux is a record.  Its members are read one by one into slots, and the invariant is that the
  slots filled so far are those of the names read so far (`Fields.filled`), whatever the order:

  1. a member of a form fills the slot of its field with the value it is a form of
     (`Fields.put_filled`);
  2. when the names of all members have been read, the slots that are still empty are those of fields
     that were left out, and what stands for them is what was left out (`Fields.finish_filled`).
-/
import Mathlib.Data.List.Perm.Basic
import FunctionCalling.Json.Shape
import FunctionCalling.Proofs.WellFormed

namespace FunctionCalling.Json

/-! ## What a form is -/

mutual

/-- Whether a JSON value is a form of a value. -/
def Shape.Writes : {α : Type} → Shape α → α → Json → Prop
  | _, .text, s, j => j = .text s
  | _, .flag, b, j => j = .bool b
  | _, .word _, n, j => j = .number (.integer n.toNat)
  | _, .byte, n, j => j = .number (.integer n.toNat)
  | _, .integer, i, j => j = .number (.integer i.toInt)
  | _, .any, v, j => j = v
  | _, .optional _, none, j => j = .null
  | _, .optional shape, some a, j => shape.Writes a j
  | _, .list shape, items, j => ∃ forms, j = .list forms ∧ List.Forall₂ shape.Writes items forms
  | _, .choice _ name, a, j => j = .text (name a)
  | _, .record _ _ fields _ parts, a, j =>
    ∃ members written, j = .object members ∧ members.Perm written ∧ fields.Writes (parts a) written

/-- Whether members are a form of the parts of a record, in declared order. -/
def Fields.Writes : {β : Type} → Fields β → β → List (String × Json) → Prop
  | _, .done, (), members => members = []
  | _, .field name shape _ omitted more, (a, rest), members =>
    if omitted a then more.Writes rest members
    else ∃ j others, members = (name, j) :: others ∧ shape.Writes a j ∧ more.Writes rest others

end

mutual

/-- What is written is a form of the value. -/
theorem Shape.writes_encode : {α : Type} → (shape : Shape α) → (a : α) →
    shape.Writes a (shape.encode a)
  | _, .text, _ => rfl
  | _, .flag, _ => rfl
  | _, .word _, _ => rfl
  | _, .byte, _ => rfl
  | _, .integer, _ => rfl
  | _, .any, _ => rfl
  | _, .choice _ _, _ => rfl
  | _, .optional _, none => rfl
  | _, .optional shape, some a => shape.writes_encode a
  | _, .list shape, items => by
    refine ⟨_, rfl, ?_⟩
    rw [List.forall₂_map_right_iff]
    exact List.forall₂_same.2 fun a _ => shape.writes_encode a
  | _, .record _ _ fields _ parts, a => ⟨_, _, rfl, List.Perm.refl _, fields.writes_encode (parts a)⟩

/-- The members that are written are a form of the parts. -/
theorem Fields.writes_encode : {β : Type} → (fields : Fields β) → (b : β) →
    fields.Writes b (fields.encode b)
  | _, .done, () => rfl
  | _, .field name shape _ omitted more, (a, rest) => by
    rw [Fields.Writes, Fields.encode]
    split
    · exact more.writes_encode rest
    · exact ⟨_, _, rfl, shape.writes_encode a, more.writes_encode rest⟩

end

/-! ## When nothing is lost -/

/-- Whether no value is written as `null`. -/
def Shape.NeverNull {α : Type} (shape : Shape α) : Prop :=
  ∀ a, ¬ shape.Writes a .null

mutual

/-- Whether a shape keeps what makes up a value. -/
def Shape.Faithful : {α : Type} → Shape α → Prop
  | _, .optional shape => shape.Faithful ∧ shape.NeverNull
  | _, .list shape => shape.Faithful
  | _, .choice values name => (∀ a, a ∈ values) ∧ Function.Injective name
  | _, .record _ _ fields make parts =>
    fields.Faithful ∧ fields.names.Nodup ∧ ∀ a, make (parts a) = a
  | _, _ => True

/-- Whether fields do, and are left out only where that says the same. -/
def Fields.Faithful : {β : Type} → Fields β → Prop
  | _, .done => True
  | _, .field _ shape absent omitted more =>
    shape.Faithful ∧ (∀ a, omitted a = true → absent = some a) ∧ more.Faithful

end

namespace Shape

theorem neverNull_text : text.NeverNull :=
  fun _ h => Json.noConfusion h

theorem neverNull_list {α : Type} (shape : Shape α) : (list shape).NeverNull := by
  rintro items ⟨forms, hnull, -⟩
  cases hnull

theorem neverNull_record {α β : Type} (name : String) (strictness : Strictness)
    (fields : Fields β) (make : β → α) (parts : α → β) :
    (record name strictness fields make parts).NeverNull := by
  rintro a ⟨members, written, hnull, -, -⟩
  cases hnull

/-- A choice among all values, under names of which none occurs twice. -/
theorem faithful_choice {α : Type} {values : List α} {name : α → String}
    (hall : ∀ a, a ∈ values) (hnames : (values.map name).Nodup) : (choice values name).Faithful :=
  ⟨hall, fun a b h => List.inj_on_of_nodup_map hnames (hall a) (hall b) h⟩

end Shape

namespace Fields

variable {α β : Type} {name : String} {shape : Shape α} {more : Fields β}

theorem faithful_required (hshape : shape.Faithful) (hmore : more.Faithful) :
    (required name shape more).Faithful :=
  ⟨hshape, fun _ h => Bool.noConfusion h, hmore⟩

theorem faithful_withDefault (absent : α) (hshape : shape.Faithful) (hmore : more.Faithful) :
    (withDefault name shape absent more).Faithful :=
  ⟨hshape, fun _ h => Bool.noConfusion h, hmore⟩

theorem faithful_whenSome (hshape : shape.Faithful) (hnull : shape.NeverNull)
    (hmore : more.Faithful) : (whenSome name shape more).Faithful := by
  refine ⟨⟨hshape, hnull⟩, ?_, hmore⟩
  intro a homitted
  rw [Option.isNone_iff_eq_none.1 homitted]

theorem faithful_whenAny (hshape : shape.Faithful) (hmore : more.Faithful) :
    (whenAny name shape more).Faithful := by
  refine ⟨hshape, ?_, hmore⟩
  intro items homitted
  rw [List.isEmpty_iff.1 homitted]

end Fields

/-! ## Reading single values back -/

theorem wholeNumber_eq_ok {α : Type} {low high i : Int} (hlow : low ≤ i) (hhigh : i < high)
    (expected : String) (make : Int → α) :
    wholeNumber expected low high make (.number (.integer i)) = .ok (make i) :=
  if_pos ⟨hlow, hhigh⟩

/-- The name of a choice is read as that choice. -/
theorem choiceOf_name {α : Type} {values : List α} {name : α → String} (hall : ∀ a, a ∈ values)
    (hname : Function.Injective name) (a : α) : choiceOf values name (.text (name a)) = .ok a := by
  have hfind : values.find? (fun x => name x == name a) = some a := by
    refine (find?_eq_some_iff_of_unique ?_).2 ⟨hall a, beq_self_eq_true _⟩
    intro x _ y _ hx hy
    exact hname ((beq_iff_eq.1 hx).trans (beq_iff_eq.1 hy).symm)
  simp only [choiceOf, chosen, hfind]

theorem mapM_eq_ok_of_forall₂ {α : Type} {R : α → Json → Prop} {decode : Json → Except Misfit α}
    (hdecode : ∀ a j, R a j → decode j = .ok a) {items : List α} {forms : List Json}
    (h : List.Forall₂ R items forms) : forms.mapM decode = .ok items := by
  induction h with
  | nil => rfl
  | cons hhead _ ih =>
    rw [List.mapM_cons, hdecode _ _ hhead, ih]
    rfl

/-! ## Reading records back -/

namespace Fields

/-- Whether the shapes of all fields read forms back. -/
def ReadBack : {β : Type} → Fields β → Prop
  | _, .done => True
  | _, .field _ shape _ _ more =>
    (∀ {a j}, shape.Writes a j → shape.decode j = .ok a) ∧ more.ReadBack

/-- The slots of a record of which the members under some keys have been read. -/
def filled : {β : Type} → (fields : Fields β) → List String → β → fields.Slots
  | _, .done, _, () => ()
  | _, .field name _ _ _ more, keys, (a, rest) =>
    (if name ∈ keys then some a else none, more.filled keys rest)

theorem filled_nil : {β : Type} → (fields : Fields β) → (b : β) → fields.filled [] b = fields.empty
  | _, .done, () => rfl
  | _, .field _ _ _ _ more, (_, rest) => by
    rw [filled, more.filled_nil rest, if_neg List.not_mem_nil]
    rfl

/-- A key that is no field's name fills no slot. -/
theorem filled_cons_of_notMem {key : String} (keys : List String) : {β : Type} →
    (fields : Fields β) → (b : β) → key ∉ fields.names →
    fields.filled (key :: keys) b = fields.filled keys b
  | _, .done, (), _ => rfl
  | _, .field name _ _ _ more, (a, rest), h => by
    have hkey : name ≠ key := fun heq => h (heq ▸ List.mem_cons_self)
    have hmore : key ∉ more.names := fun hmem => h (List.mem_cons_of_mem _ hmem)
    have hname : name ∈ key :: keys ↔ name ∈ keys := by rw [List.mem_cons, or_iff_right hkey]
    rw [filled, filled, more.filled_cons_of_notMem keys rest hmore]
    simp only [hname]

/-- The members of a form go by the names of fields, in declared order. -/
theorem sublist_names : {β : Type} → (fields : Fields β) → {b : β} →
    {written : List (String × Json)} → fields.Writes b written →
    (written.map Prod.fst).Sublist fields.names
  | _, .done, (), written, h => by
    obtain rfl : written = [] := h
    exact List.Sublist.refl _
  | _, .field name _ _ _ more, (_, _), written, h => by
    rw [Fields.Writes] at h
    split at h
    · exact (more.sublist_names h).cons name
    · obtain ⟨j, others, rfl, -, hothers⟩ := h
      exact (more.sublist_names hothers).cons_cons name

/-- **A member of a form fills the slot of its field.** -/
theorem put_filled (strictness : Strictness) (known : List String) {key : String} {j : Json}
    {keys : List String} (hnew : key ∉ keys) : {β : Type} → (fields : Fields β) →
    fields.ReadBack → fields.names.Nodup → {b : β} → {written : List (String × Json)} →
    fields.Writes b written → (key, j) ∈ written →
    fields.put strictness known key j (fields.filled keys b) = .ok (fields.filled (key :: keys) b)
  | _, .done, _, _, (), written, h, hmem => by
    obtain rfl : written = [] := h
    cases hmem
  | _, .field name shape absent omitted more, hread, hnodup, (a, rest), written, h, hmem => by
    obtain ⟨hshape, hmore⟩ := hread
    obtain ⟨hname, hnames⟩ := List.nodup_cons.1 hnodup
    -- a member of one of the other fields leaves this slot as it is
    have hother : ∀ {others}, more.Writes rest others → (key, j) ∈ others →
        (Fields.field name shape absent omitted more).put strictness known key j
            (filled (.field name shape absent omitted more) keys (a, rest)) =
          .ok (filled (.field name shape absent omitted more) (key :: keys) (a, rest)) := by
      intro others hothers hkey
      have hput := put_filled strictness known hnew more hmore hnames hothers hkey
      have hkeyname : key ∈ more.names :=
        (more.sublist_names hothers).subset (List.mem_map_of_mem hkey)
      have hne : key ≠ name := fun heq => hname (heq ▸ hkeyname)
      have hslot : name ∈ key :: keys ↔ name ∈ keys := by
        rw [List.mem_cons, or_iff_right hne.symm]
      simp only [filled, put, if_neg hne, hput, hslot]
      rfl
    rw [Fields.Writes] at h
    split at h
    · exact hother h hmem
    · obtain ⟨form, others, rfl, hform, hothers⟩ := h
      rcases List.mem_cons.1 hmem with heq | hmem
      · obtain ⟨rfl, rfl⟩ := Prod.mk.inj heq
        have hsame := more.filled_cons_of_notMem keys rest hname
        simp only [filled, put, if_pos, if_neg hnew, hshape hform, hsame, List.mem_cons_self]
        rfl
      · exact hother hothers hmem

/-- All members of a form fill the slots of their fields, by induction on those that are still to be
    read. -/
theorem foldlM_put_filled {β : Type} {fields : Fields β} (strictness : Strictness)
    (hread : fields.ReadBack) (hnodup : fields.names.Nodup) {b : β}
    {written : List (String × Json)} (h : fields.Writes b written) :
    ∀ (members : List (String × Json)) (keys : List String), members ⊆ written →
      (members.map Prod.fst).Nodup → (∀ key ∈ members.map Prod.fst, key ∉ keys) →
      members.foldlM (fun slots (key, j) => fields.put strictness fields.names key j slots)
        (fields.filled keys b) =
        .ok (fields.filled ((members.map Prod.fst).reverse ++ keys) b) := by
  intro members
  induction members with
  | nil => exact fun _ _ _ _ => rfl
  | cons m members ih =>
    intro keys hwritten hkeys hnew
    obtain ⟨key, j⟩ := m
    have hfirst := put_filled strictness fields.names (hnew key List.mem_cons_self) fields hread
      hnodup h (hwritten List.mem_cons_self)
    obtain ⟨hkey, hrest⟩ := List.nodup_cons.1 hkeys
    -- no name occurs twice, so none of those to come is the one just read
    have hnew' : ∀ k ∈ members.map Prod.fst, k ∉ key :: keys := by
      intro k hk hmem
      rcases List.mem_cons.1 hmem with rfl | hmem
      · exact hkey hk
      · exact hnew k (List.mem_cons_of_mem _ hk) hmem
    have hothers := ih (key :: keys) (fun m hm => hwritten (List.mem_cons_of_mem _ hm)) hrest hnew'
    rw [List.map_cons, List.reverse_cons, List.append_assoc, List.singleton_append, ← hothers,
      List.foldlM_cons]
    show fields.put strictness fields.names key j (fields.filled keys b) >>= _ = _
    rw [hfirst]
    rfl

/-- **When all members of a form have been read, the record is complete.** -/
theorem finish_filled {keys : List String} : {β : Type} → (fields : Fields β) → fields.Faithful →
    {b : β} → {written : List (String × Json)} → fields.Writes b written →
    (∀ key ∈ written.map Prod.fst, key ∈ keys) → fields.finish (fields.filled keys b) = .ok b
  | _, .done, _, (), _, _, _ => rfl
  | _, .field name _ absent omitted more, hfaithful, (a, rest), written, h, hkeys => by
    obtain ⟨-, habsent, hmore⟩ := hfaithful
    have hslots : ((if name ∈ keys then some a else none) <|> absent) = some a ∧
        more.finish (more.filled keys rest) = .ok rest := by
      rw [Fields.Writes] at h
      split at h
      next homitted =>
        -- left out: read or not, the slot stands for what was left out
        refine ⟨?_, more.finish_filled hmore h hkeys⟩
        rw [habsent a homitted]
        split <;> rfl
      next =>
        obtain ⟨j, others, rfl, -, hothers⟩ := h
        have hname : name ∈ keys := hkeys name List.mem_cons_self
        refine ⟨?_, more.finish_filled hmore hothers ?_⟩
        · rw [if_pos hname]
          rfl
        · exact fun key hkey => hkeys key (List.mem_cons_of_mem _ hkey)
    simp only [filled, finish, hslots]
    rfl

end Fields

/-- A record is read back from its members in any order. -/
theorem Shape.decode_record {α β : Type} {fields : Fields β} (hfields : fields.Faithful)
    (hread : fields.ReadBack) (hnodup : fields.names.Nodup) {b : β}
    {members written : List (String × Json)} (hperm : members.Perm written)
    (h : fields.Writes b written) (name : String) (strictness : Strictness) (make : β → α)
    (parts : α → β) :
    (Shape.record name strictness fields make parts).decode (.object members) = .ok (make b) := by
  -- names of different fields are different, so no member is met twice
  have hkeys : (members.map Prod.fst).Nodup :=
    (hperm.map Prod.fst).nodup_iff.2 (hnodup.sublist (fields.sublist_names h))
  have hfold := Fields.foldlM_put_filled strictness hread hnodup h members [] hperm.subset hkeys
    (fun _ _ => List.not_mem_nil)
  have hfinish : fields.finish (fields.filled ((members.map Prod.fst).reverse ++ []) b) = .ok b := by
    refine fields.finish_filled hfields h ?_
    intro key hkey
    rw [List.append_nil, List.mem_reverse]
    exact (hperm.map Prod.fst).mem_iff.2 hkey
  rw [fields.filled_nil] at hfold
  rw [Shape.decode]
  simp only [hfold]
  show (fields.finish _).map make = _
  rw [hfinish]
  rfl

/-! ## Reading all values back -/

mutual

/-- **A faithful shape reads a value back from every form of it.** -/
theorem Shape.decode_of_writes : {α : Type} → (shape : Shape α) → shape.Faithful → {a : α} →
    {j : Json} → shape.Writes a j → shape.decode j = .ok a
  | _, .text, _, s, j, h => by
    obtain rfl : j = .text s := h
    rfl
  | _, .flag, _, b, j, h => by
    obtain rfl : j = .bool b := h
    rfl
  | _, .word name, _, n, j, h => by
    obtain rfl : j = .number (.integer n.toNat) := h
    have hbound : (n.toNat : Int) < Int.pow 2 64 := Int.ofNat_lt.2 n.toNat_lt
    rw [Shape.decode, wholeNumber_eq_ok (Int.natCast_nonneg _) hbound, Int.toNat_natCast,
      UInt64.ofNat_toNat]
  | _, .byte, _, n, j, h => by
    obtain rfl : j = .number (.integer n.toNat) := h
    have hbound : (n.toNat : Int) < Int.pow 2 8 := Int.ofNat_lt.2 n.toNat_lt
    rw [Shape.decode, wholeNumber_eq_ok (Int.natCast_nonneg _) hbound, Int.toNat_natCast,
      UInt8.ofNat_toNat]
  | _, .integer, _, i, j, h => by
    obtain rfl : j = .number (.integer i.toInt) := h
    have hlow : -Int.pow 2 63 ≤ i.toInt := i.le_toInt
    have hhigh : i.toInt < Int.pow 2 63 := i.toInt_lt
    rw [Shape.decode, wholeNumber_eq_ok hlow hhigh, Int64.ofInt_toInt]
  | _, .any, _, v, j, h => by
    obtain rfl : j = v := h
    rfl
  | _, .optional shape, _, none, j, h => by
    obtain rfl : j = .null := h
    rfl
  | _, .optional shape, hfaithful, some a, j, h => by
    have hread := shape.decode_of_writes hfaithful.1 h
    -- `null` would be read as nothing, but nothing that is there has this form
    have hnull : j ≠ .null := fun heq => hfaithful.2 a (heq ▸ h)
    have hsome : (Shape.optional shape).decode j = (shape.decode j).map some := by
      cases j with
      | null => exact absurd rfl hnull
      | _ => rfl
    rw [hsome, hread]
    rfl
  | _, .list shape, hfaithful, items, j, h => by
    obtain ⟨forms, rfl, hforms⟩ := h
    rw [Shape.decode]
    exact mapM_eq_ok_of_forall₂ (fun _ _ hform => shape.decode_of_writes hfaithful hform) hforms
  | _, .choice values name, hfaithful, a, j, h => by
    obtain rfl : j = .text (name a) := h
    rw [Shape.decode]
    exact choiceOf_name hfaithful.1 hfaithful.2 a
  | _, .record name strictness fields make parts, hfaithful, a, j, h => by
    obtain ⟨members, written, rfl, hperm, hwritten⟩ := h
    obtain ⟨hfields, hnodup, hparts⟩ := hfaithful
    rw [Shape.decode_record hfields (fields.readBack hfields) hnodup hperm hwritten, hparts]

/-- So do the shapes of the fields of a record. -/
theorem Fields.readBack : {β : Type} → (fields : Fields β) → fields.Faithful → fields.ReadBack
  | _, .done, _ => trivial
  | _, .field _ shape _ _ more, hfaithful =>
    ⟨shape.decode_of_writes hfaithful.1, more.readBack hfaithful.2.2⟩

end

end FunctionCalling.Json
