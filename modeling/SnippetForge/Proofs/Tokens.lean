import Mathlib.Data.Set.Basic
import SnippetForge.Tokens

/-!
# Trees of cancellation tokens

A token counts as fired exactly if it or a token above it has been fired itself. The table only
grows, so what can happen to it is small: new tokens come in below old ones, and some tokens are
fired. `Grows` says that in between two tables nothing but that has happened, and that only tokens
of some region have been fired. Outside of what is under that region, every token counts as fired
exactly if it did before.
-/

namespace SnippetForge.Tokens

/-! ### Parents and flags -/

/-- The parent of a token. -/
def parent? (t : Tokens) (id : TokenId) : Option TokenId :=
  t.states[id]?.bind (·.parent)

/-- Whether a token has been fired itself. -/
def isSet (t : Tokens) (id : TokenId) : Bool :=
  t.states[id]?.any (·.fired)

/-- How many tokens there are. -/
def size (t : Tokens) : Nat :=
  t.states.length

/-- A parent has a smaller number than its children. -/
def WellFormed (t : Tokens) : Prop :=
  ∀ id p, t.parent? id = some p → p < id

/-- A token is another one or has it as an ancestor. -/
inductive IsUnder (t : Tokens) : TokenId → TokenId → Prop
  | refl (id : TokenId) : IsUnder t id id
  | step {id p above : TokenId} (parent : t.parent? id = some p) (h : IsUnder t p above) :
      IsUnder t id above

lemma isUnder_iff {t : Tokens} {id above : TokenId} :
    t.IsUnder id above ↔ id = above ∨ ∃ p, t.parent? id = some p ∧ t.IsUnder p above := by
  constructor
  · intro h
    cases h with
    | refl => exact .inl rfl
    | step parent h => exact .inr ⟨_, parent, h⟩
  · rintro (rfl | ⟨p, parent, h⟩)
    · exact .refl id
    · exact .step parent h

/-- What is above a token has no larger number. -/
lemma IsUnder.le {t : Tokens} {id above : TokenId} (wellFormed : t.WellFormed)
    (h : t.IsUnder id above) : above ≤ id := by
  induction h with
  | refl id => exact le_rfl
  | step parent _ ih => exact ih.trans (wellFormed _ _ parent).le

lemma parent?_eq_none {t : Tokens} {id : TokenId} (h : t.size ≤ id) : t.parent? id = .none := by
  unfold parent?
  rw [List.getElem?_eq_none h]
  rfl

lemma isSet_eq_false {t : Tokens} {id : TokenId} (h : t.size ≤ id) : t.isSet id = false := by
  unfold isSet
  rw [List.getElem?_eq_none h]
  rfl

lemma lt_size_of_parent? {t : Tokens} {id p : TokenId} (h : t.parent? id = some p) :
    id < t.size := by
  by_contra hsize
  rw [parent?_eq_none (not_lt.mp hsize)] at h
  cases h

lemma lt_size_of_isSet {t : Tokens} {id : TokenId} (h : t.isSet id = true) : id < t.size := by
  by_contra hsize
  rw [isSet_eq_false (not_lt.mp hsize)] at h
  cases h

/-- Only a token of the table has anything above it that has been fired. -/
lemma IsUnder.lt_size {t : Tokens} {id above : TokenId} (h : t.IsUnder id above)
    (hset : t.isSet above = true) : id < t.size := by
  cases h with
  | refl => exact lt_size_of_isSet hset
  | step parent _ => exact lt_size_of_parent? parent

/-! ### Tokens that count as fired -/

lemma isFiredWithin_succ (t : Tokens) (generations : Nat) (id : TokenId) :
    t.isFiredWithin (generations + 1) id = true ↔
      t.isSet id = true ∨ ∃ p, t.parent? id = some p ∧ t.isFiredWithin generations p = true := by
  rw [isFiredWithin, isSet, parent?]
  cases t.states[id]? with
  | none => simp
  | some state => cases hparent : state.parent <;> simp [hparent]

/-- As many generations as a token can have decide whether it counts as fired. -/
lemma isFiredWithin_iff {t : Tokens} (wellFormed : t.WellFormed) {generations : Nat} {id : TokenId}
    (h : id < generations) :
    t.isFiredWithin generations id = true ↔ ∃ above, t.IsUnder id above ∧ t.isSet above = true := by
  induction generations generalizing id with
  | zero => exact absurd h (Nat.not_lt_zero id)
  | succ generations ih =>
    have hparent : ∀ p, t.parent? id = some p → (t.isFiredWithin generations p = true ↔
        ∃ above, t.IsUnder p above ∧ t.isSet above = true) :=
      fun p hp => ih (lt_of_lt_of_le (wellFormed id p hp) (Nat.lt_succ_iff.mp h))
    rw [isFiredWithin_succ]
    constructor
    · rintro (hset | ⟨p, hp, hfired⟩)
      · exact ⟨id, .refl id, hset⟩
      · obtain ⟨above, hunder, hset⟩ := (hparent p hp).mp hfired
        exact ⟨above, .step hp hunder, hset⟩
    · rintro ⟨above, hunder, hset⟩
      rcases isUnder_iff.mp hunder with rfl | ⟨p, hp, hunder⟩
      · exact .inl hset
      · exact .inr ⟨p, hp, (hparent p hp).mpr ⟨above, hunder, hset⟩⟩

/-- A token counts as fired exactly if it or one above it has been fired itself. -/
lemma isFired_iff {t : Tokens} (wellFormed : t.WellFormed) {id : TokenId} :
    t.isFired id = true ↔ ∃ above, t.IsUnder id above ∧ t.isSet above = true := by
  rcases lt_or_ge id t.size with hlt | hge
  · exact isFiredWithin_iff wellFormed hlt
  · have hnone : ¬∃ above, t.IsUnder id above ∧ t.isSet above = true := by
      rintro ⟨above, hunder, hset⟩
      exact absurd (hunder.lt_size hset) (not_lt.mpr hge)
    refine iff_of_false (fun hfired => ?_) hnone
    unfold isFired at hfired
    cases hsize : t.states.length with
    | zero =>
      rw [hsize] at hfired
      cases hfired
    | succ n =>
      rw [hsize, isFiredWithin_succ, isSet_eq_false hge, parent?_eq_none hge] at hfired
      simp at hfired

/-- A token counts as fired exactly if it has been fired itself or its parent counts as fired. -/
lemma isFired_iff_parent {t : Tokens} (wellFormed : t.WellFormed) {id : TokenId} :
    t.isFired id = true ↔
      t.isSet id = true ∨ ∃ p, t.parent? id = some p ∧ t.isFired p = true := by
  rw [isFired_iff wellFormed]
  constructor
  · rintro ⟨above, hunder, hset⟩
    rcases isUnder_iff.mp hunder with rfl | ⟨p, hp, hunder⟩
    · exact .inl hset
    · exact .inr ⟨p, hp, (isFired_iff wellFormed).mpr ⟨above, hunder, hset⟩⟩
  · rintro (hset | ⟨p, hp, hfired⟩)
    · exact ⟨id, .refl id, hset⟩
    · obtain ⟨above, hunder, hset⟩ := (isFired_iff wellFormed).mp hfired
      exact ⟨above, .step hp hunder, hset⟩

/-! ### Growing -/

/-- A table has only grown, and of the old tokens only those of a region have been fired since. -/
structure Grows (region : Set TokenId) (t t' : Tokens) : Prop where
  size : t.size ≤ t'.size
  parent : ∀ id, id < t.size → t'.parent? id = t.parent? id
  older : ∀ id p, t.size ≤ id → t'.parent? id = some p → p < id
  kept : ∀ id, t.isSet id = true → t'.isSet id = true
  within : ∀ id, id < t.size → id ∉ region → t'.isSet id = t.isSet id

namespace Grows

variable {region region' : Set TokenId} {t t' t'' : Tokens} {id above : TokenId}

lemma refl (region : Set TokenId) (t : Tokens) : Grows region t t where
  size := le_rfl
  parent _ _ := rfl
  older id p hid hp := by
    rw [parent?_eq_none hid] at hp
    cases hp
  kept _ h := h
  within _ _ _ := rfl

lemma mono (h : Grows region t t') (sub : ∀ id, id < t.size → id ∈ region → id ∈ region') :
    Grows region' t t' :=
  { h with within := fun id hid hout => h.within id hid fun hin => hout (sub id hid hin) }

lemma wellFormed (h : Grows region t t') (wellFormed : t.WellFormed) : t'.WellFormed := by
  intro id p hp
  rcases lt_or_ge id t.size with hlt | hge
  · rw [h.parent id hlt] at hp
    exact wellFormed id p hp
  · exact h.older id p hge hp

lemma trans (h : Grows region t t') (h' : Grows region t' t'') : Grows region t t'' where
  size := h.size.trans h'.size
  parent id hid := (h'.parent id (hid.trans_le h.size)).trans (h.parent id hid)
  older id p hid hp := by
    rcases lt_or_ge id t'.size with hlt | hge
    · rw [h'.parent id hlt] at hp
      exact h.older id p hid hp
    · exact h'.older id p hge hp
  kept id hset := h'.kept id (h.kept id hset)
  within id hid hout :=
    (h'.within id (hid.trans_le h.size) hout).trans (h.within id hid hout)

/-- Old tokens stay where they are. -/
lemma isUnder_iff (h : Grows region t t') (wellFormed : t.WellFormed) (hid : id < t.size) :
    t'.IsUnder id above ↔ t.IsUnder id above := by
  constructor
  · intro hunder
    induction hunder with
    | refl id => exact .refl id
    | @step id p _ parent _ ih =>
      rw [h.parent id hid] at parent
      exact .step parent (ih ((wellFormed id p parent).trans hid))
  · intro hunder
    induction hunder with
    | refl id => exact .refl id
    | @step id p _ parent _ ih =>
      rw [← h.parent id hid] at parent
      refine .step parent (ih ?_)
      rw [h.parent id hid] at parent
      exact (wellFormed id p parent).trans hid

/-- A token that counts as fired does so ever after. -/
lemma isFired (h : Grows region t t') (wellFormed : t.WellFormed) (hfired : t.isFired id = true) :
    t'.isFired id = true := by
  obtain ⟨above, hunder, hset⟩ := (isFired_iff wellFormed).mp hfired
  exact (isFired_iff (h.wellFormed wellFormed)).mpr
    ⟨above, (h.isUnder_iff wellFormed (hunder.lt_size hset)).mpr hunder, h.kept above hset⟩

end Grows

/-- Firing a token sets its flag and no other. -/
lemma isSet_fire (t : Tokens) (id other : TokenId) :
    (t.fire id).isSet other = (t.isSet other || decide (other = id ∧ id < t.size)) := by
  unfold fire isSet size
  cases hstate : t.states[id]? with
  | none =>
    have hge := List.getElem?_eq_none_iff.mp hstate
    simp [not_lt.mpr hge]
  | some state =>
    obtain ⟨hlt, -⟩ := List.getElem?_eq_some_iff.mp hstate
    rcases eq_or_ne other id with rfl | hne
    · simp [hlt]
    · simp [List.getElem?_set_ne hne.symm, hne]

lemma grows_fire (t : Tokens) (id : TokenId) : Grows {id} t (t.fire id) := by
  have hstates : (t.fire id).size = t.size ∧
      ∀ other, (t.fire id).parent? other = t.parent? other := by
    unfold fire size parent?
    cases hstate : t.states[id]? with
    | none => exact ⟨rfl, fun _ => rfl⟩
    | some state =>
      refine ⟨List.length_set, fun other => ?_⟩
      rcases eq_or_ne other id with rfl | hne
      · obtain ⟨hlt, -⟩ := List.getElem?_eq_some_iff.mp hstate
        rw [List.getElem?_set_self hlt, hstate]
        rfl
      · simp [List.getElem?_set_ne hne.symm]
  obtain ⟨hsize, hparent⟩ := hstates
  refine ⟨hsize.ge, fun other _ => hparent other, fun other p hge hp => ?_, fun other hset => ?_,
    fun other _ hout => ?_⟩
  · rw [hparent, parent?_eq_none hge] at hp
    cases hp
  · rw [isSet_fire, hset, Bool.true_or]
  · have hne : other ≠ id := hout
    simp [isSet_fire, hne]

/-- A new token has the number after the last one, and has not been fired. -/
lemma add_spec (t : Tokens) (parent : Option TokenId) :
    (t.add parent).2 = t.size ∧ (t.add parent).1.size = t.size + 1 ∧
      (t.add parent).1.parent? t.size = parent ∧ (t.add parent).1.isSet t.size = false := by
  simp [add, size, parent?, isSet]

/-- A new token comes in below old ones. -/
lemma grows_add (t : Tokens) {parent : Option TokenId} (known : ∀ p, parent = some p → p < t.size) :
    Grows ∅ t (t.add parent).1 := by
  have hold : ∀ id, id < t.size → (t.add parent).1.states[id]? = t.states[id]? :=
    fun id hid => List.getElem?_append_left hid
  refine ⟨by simp [add, size], fun id hid => ?_, fun id p hge hp => ?_, fun id hset => ?_,
    fun id hid _ => ?_⟩
  · rw [parent?, hold id hid, parent?]
  · obtain ⟨-, hsize, hnew, -⟩ := t.add_spec parent
    have hlt := lt_size_of_parent? hp
    rw [hsize, Nat.lt_succ_iff] at hlt
    obtain rfl : id = t.size := le_antisymm hlt hge
    exact known p (hnew.symm.trans hp)
  · rw [isSet, hold id (lt_size_of_isSet hset)]
    exact hset
  · rw [isSet, hold id hid, isSet]

end SnippetForge.Tokens
