namespace StreamTunnel

structure Table (κ α : Type) where
  toList : List (κ × α)
deriving DecidableEq, Repr

namespace Table

variable {κ α β : Type} [DecidableEq κ]

instance : EmptyCollection (Table κ α) := ⟨⟨[]⟩⟩
instance : Inhabited (Table κ α) := ⟨∅⟩

def keys (t : Table κ α) : List κ :=
  t.toList.map Prod.fst

def size (t : Table κ α) : Nat :=
  t.toList.length

def isEmpty (t : Table κ α) : Bool :=
  t.toList.isEmpty

def find (k : κ) : List (κ × α) → Option α
  | [] => none
  | (k', v) :: rest => if k = k' then some v else find k rest

def get? (t : Table κ α) (k : κ) : Option α :=
  find k t.toList

def contains (t : Table κ α) (k : κ) : Bool :=
  (t.get? k).isSome

def place [LT κ] [DecidableLT κ] (k : κ) (v : α) : List (κ × α) → List (κ × α)
  | [] => [(k, v)]
  | (k', v') :: rest =>
      if k = k' then (k, v) :: rest
      else if k < k' then (k, v) :: (k', v') :: rest
      else (k', v') :: place k v rest

def insert [LT κ] [DecidableLT κ] (t : Table κ α) (k : κ) (v : α) : Table κ α :=
  ⟨place k v t.toList⟩

def erase (t : Table κ α) (k : κ) : Table κ α :=
  ⟨t.toList.filter (fun entry => entry.1 ≠ k)⟩

def modify (t : Table κ α) (k : κ) (f : α → α) : Table κ α :=
  ⟨t.toList.map (fun entry => if entry.1 = k then (entry.1, f entry.2) else entry)⟩

@[simp] theorem get?_empty (k : κ) : (∅ : Table κ α).get? k = none := rfl

theorem find_place [LT κ] [DecidableLT κ] (k k' : κ) (v : α) (l : List (κ × α)) :
    find k' (place k v l) = if k' = k then some v else find k' l := by
  induction l with
  | nil => simp [place, find]
  | cons entry rest ih =>
      obtain ⟨j, w⟩ := entry
      simp only [place]
      split
      · next h => subst h; simp only [find]; split <;> simp_all
      · split
        · simp [find]
        · next h _ =>
          simp only [find, ih]
          by_cases hj : k' = j
          · simp [hj, Ne.symm h]
          · simp [hj]

theorem get?_insert [LT κ] [DecidableLT κ] (t : Table κ α) (k k' : κ) (v : α) :
    (t.insert k v).get? k' = if k' = k then some v else t.get? k' :=
  find_place k k' v t.toList

theorem find_filter_ne (k k' : κ) (l : List (κ × α)) :
    find k' (l.filter (fun entry => entry.1 ≠ k)) = if k' = k then none else find k' l := by
  induction l with
  | nil => simp [find]
  | cons entry rest ih =>
      obtain ⟨j, w⟩ := entry
      by_cases hj : j = k
      · subst hj
        simp only [ne_eq, not_true_eq_false, decide_false, Bool.false_eq_true, not_false_eq_true,
          List.filter_cons_of_neg, find]
        rw [ih]
        split <;> rfl
      · simp only [ne_eq, hj, not_false_eq_true, decide_true, List.filter_cons_of_pos, find]
        by_cases hk : k' = j
        · subst hk; simp [hj]
        · simp only [hk, if_false]
          exact ih

theorem get?_erase (t : Table κ α) (k k' : κ) :
    (t.erase k).get? k' = if k' = k then none else t.get? k' :=
  find_filter_ne k k' t.toList

theorem find_map_modify (k k' : κ) (f : α → α) (l : List (κ × α)) :
    find k' (l.map (fun entry => if entry.1 = k then (entry.1, f entry.2) else entry)) =
      if k' = k then (find k' l).map f else find k' l := by
  induction l with
  | nil => simp [find]
  | cons entry rest ih =>
      obtain ⟨j, w⟩ := entry
      by_cases hj : j = k
      · subst hj
        simp only [List.map_cons, if_true, find, ih]
        split <;> rfl
      · simp only [List.map_cons, hj, if_false, find, ih]
        by_cases hk : k' = j
        · subst hk; simp [hj]
        · simp only [hk, if_false]

theorem get?_modify (t : Table κ α) (k k' : κ) (f : α → α) :
    (t.modify k f).get? k' = if k' = k then (t.get? k').map f else t.get? k' :=
  find_map_modify k k' f t.toList

theorem find_isSome_iff_mem (k : κ) (l : List (κ × α)) :
    (find k l).isSome = true ↔ k ∈ l.map Prod.fst := by
  induction l with
  | nil => simp [find]
  | cons entry rest ih =>
      simp only [find, List.map_cons, List.mem_cons]
      split
      · next same => simp [same]
      · next other => simp [other, ih]

theorem contains_iff_mem_keys {t : Table κ α} {k : κ} : t.contains k = true ↔ k ∈ t.keys :=
  find_isSome_iff_mem k t.toList

theorem isEmpty_eq_false_iff {t : Table κ α} : t.isEmpty = false ↔ ∃ k, t.contains k = true := by
  simp only [contains_iff_mem_keys, keys, isEmpty, List.isEmpty_eq_false_iff, ne_eq,
    ← List.map_eq_nil_iff (f := Prod.fst)]
  exact ⟨List.exists_mem_of_ne_nil _, fun ⟨_, mem⟩ => List.ne_nil_of_mem mem⟩

theorem keys_eq_nil_iff {t : Table κ α} : t.keys = [] ↔ ¬ ∃ k, t.contains k = true := by
  simp only [contains_iff_mem_keys, not_exists]
  exact List.eq_nil_iff_forall_not_mem

theorem contains_erase (t : Table κ α) (k k' : κ) :
    (t.erase k).contains k' = if k' = k then false else t.contains k' := by
  rw [contains, get?_erase]
  split <;> rfl

theorem keys_erase_eq_nil_iff {t : Table κ α} {k : κ} :
    (t.erase k).keys = [] ↔ ¬ ∃ k', t.contains k' = true ∧ k' ≠ k := by
  rw [keys_eq_nil_iff]
  refine not_congr (exists_congr fun k' => ?_)
  rw [contains_erase]
  by_cases same : k' = k <;> simp [same]

theorem isEmpty_eq_false_of_erase {t : Table κ α} {k : κ} (h : (t.erase k).isEmpty = false) :
    t.isEmpty = false := by
  obtain ⟨k', there⟩ := isEmpty_eq_false_iff.mp h
  rw [contains_erase] at there
  split at there
  · cases there
  · exact isEmpty_eq_false_iff.mpr ⟨k', there⟩

theorem contains_insert [LT κ] [DecidableLT κ] (t : Table κ α) (k k' : κ) (v : α) :
    (t.insert k v).contains k' = if k' = k then true else t.contains k' := by
  rw [contains, get?_insert]
  split <;> rfl

theorem keys_erase_sublist (t : Table κ α) (k : κ) : (t.erase k).keys.Sublist t.keys :=
  List.filter_sublist.map Prod.fst

theorem keys_modify (t : Table κ α) (k : κ) (f : α → α) : (t.modify k f).keys = t.keys := by
  rw [keys, modify, keys, List.map_map]
  apply List.map_congr_left
  intro entry _
  simp only [Function.comp_apply]
  split <;> rfl

theorem nodup_keys_erase {t : Table κ α} (h : t.keys.Nodup) (k : κ) : (t.erase k).keys.Nodup :=
  h.sublist (keys_erase_sublist t k)

theorem keys_erase (t : Table κ α) (k : κ) : (t.erase k).keys = t.keys.filter (· ≠ k) := by
  rw [keys, erase, keys, List.filter_map]
  rfl

theorem keys_insert_of_empty [LT κ] [DecidableLT κ] {t : Table κ α} (h : t.keys = []) (k : κ) (v : α) :
    (t.insert k v).keys = [k] := by
  rw [insert, List.map_eq_nil_iff.mp h]
  rfl

theorem keys_insert_of_singleton [LT κ] [DecidableLT κ] {t : Table κ α} {k : κ} (h : t.keys = [k])
    (v : α) : (t.insert k v).keys = [k] := by
  obtain ⟨entry, list, rfl⟩ := List.map_eq_singleton_iff.mp h
  simp [insert, keys, list, place]

theorem mem_map_place [LT κ] [DecidableLT κ] {k j : κ} {v : α} {l : List (κ × α)}
    (mem : j ∈ (place k v l).map Prod.fst) : j = k ∨ j ∈ l.map Prod.fst := by
  induction l with
  | nil => simpa [place] using mem
  | cons entry rest ih =>
      simp only [place] at mem
      split at mem
      · rw [List.map_cons, List.mem_cons] at mem ⊢
        exact mem.imp_right .inr
      · split at mem
        · simpa using mem
        · rw [List.map_cons, List.mem_cons] at mem ⊢
          rcases mem with same | mem
          · exact .inr (.inl same)
          · exact (ih mem).imp_right .inr

theorem nodup_map_place [LT κ] [DecidableLT κ] {k : κ} {v : α} {l : List (κ × α)}
    (h : (l.map Prod.fst).Nodup) (new : k ∉ l.map Prod.fst) : ((place k v l).map Prod.fst).Nodup := by
  induction l with
  | nil => simp [place]
  | cons entry rest ih =>
      rw [List.map_cons, List.nodup_cons] at h
      rw [List.map_cons, List.mem_cons, not_or] at new
      simp only [place]
      split
      · next same => exact absurd same new.1
      · split
        · simp only [List.map_cons, List.nodup_cons, List.mem_cons, not_or]
          exact ⟨new, h⟩
        · rw [List.map_cons, List.nodup_cons]
          refine ⟨?_, ih h.2 new.2⟩
          intro mem
          rcases mem_map_place mem with same | mem
          · exact new.1 same.symm
          · exact h.1 mem

theorem nodup_keys_insert [LT κ] [DecidableLT κ] {t : Table κ α} {k : κ} (h : t.keys.Nodup)
    (new : t.contains k = false) (v : α) : (t.insert k v).keys.Nodup := by
  apply nodup_map_place h
  rw [← find_isSome_iff_mem]
  simpa [contains, get?] using new

theorem sorted_map_place [LT κ] [DecidableLT κ] (trans : ∀ {a b c : κ}, a < b → b < c → a < c)
    (total : ∀ {a b : κ}, a ≠ b → ¬ a < b → b < a) {k : κ} {v : α} {l : List (κ × α)}
    (h : (l.map Prod.fst).Pairwise (· < ·)) : ((place k v l).map Prod.fst).Pairwise (· < ·) := by
  induction l with
  | nil => simp [place]
  | cons entry rest ih =>
      obtain ⟨j, w⟩ := entry
      obtain ⟨first, others⟩ := List.pairwise_cons.mp h
      simp only [place]
      split
      · next same =>
        subst same
        exact h
      · next other =>
        split
        · next before =>
          refine List.pairwise_cons.mpr ⟨?_, h⟩
          intro i mem
          rcases List.mem_cons.mp mem with rfl | mem
          · exact before
          · exact trans before (first i mem)
        · next after =>
          refine List.pairwise_cons.mpr ⟨?_, ih others⟩
          intro i mem
          rcases mem_map_place mem with rfl | mem
          · exact total other after
          · exact first i mem

theorem sorted_keys_insert [LT κ] [DecidableLT κ] (trans : ∀ {a b c : κ}, a < b → b < c → a < c)
    (total : ∀ {a b : κ}, a ≠ b → ¬ a < b → b < a) {t : Table κ α} (h : t.keys.Pairwise (· < ·))
    (k : κ) (v : α) : (t.insert k v).keys.Pairwise (· < ·) :=
  sorted_map_place trans total h

theorem mem_of_find {k : κ} {v : α} {l : List (κ × α)} (found : find k l = some v) : (k, v) ∈ l := by
  induction l with
  | nil => cases found
  | cons entry rest ih =>
      rw [find] at found
      split at found
      · next same =>
        cases found
        subst same
        exact List.mem_cons_self
      · exact List.mem_cons_of_mem entry (ih found)

theorem find_of_mem {k : κ} {v : α} {l : List (κ × α)} (nodup : (l.map Prod.fst).Nodup)
    (mem : (k, v) ∈ l) : find k l = some v := by
  induction l with
  | nil => cases mem
  | cons entry rest ih =>
      obtain ⟨others, nodup⟩ := List.nodup_cons.mp nodup
      rw [find]
      rcases List.mem_cons.mp mem with rfl | mem
      · rw [if_pos rfl]
      · split
        · next same => exact absurd (List.mem_map_of_mem (f := Prod.fst) mem) (same ▸ others)
        · exact ih nodup mem

theorem mem_of_get? {t : Table κ α} {k : κ} {v : α} (found : t.get? k = some v) : (k, v) ∈ t.toList :=
  mem_of_find found

theorem mem_toList_iff {t : Table κ α} (nodup : t.keys.Nodup) {k : κ} {v : α} :
    (k, v) ∈ t.toList ↔ t.get? k = some v :=
  ⟨find_of_mem nodup, mem_of_get?⟩

theorem length_place [LT κ] [DecidableLT κ] {k : κ} {l : List (κ × α)} (new : find k l = none) (v : α) :
    (place k v l).length = l.length + 1 := by
  induction l with
  | nil => rfl
  | cons entry rest ih =>
      rw [find] at new
      split at new
      · cases new
      · next other =>
        rw [place, if_neg other]
        split
        · rfl
        · rw [List.length_cons, ih new, List.length_cons]

theorem size_insert [LT κ] [DecidableLT κ] {t : Table κ α} {k : κ} (new : t.get? k = none) (v : α) :
    (t.insert k v).size = t.size + 1 :=
  length_place new v

theorem length_filter_ne {l : List (κ × α)} (nodup : (l.map Prod.fst).Nodup) (k : κ) :
    (l.filter (fun entry => entry.1 ≠ k)).length + (find k l).toList.length = l.length := by
  induction l with
  | nil => rfl
  | cons entry rest ih =>
      obtain ⟨others, nodup⟩ := List.nodup_cons.mp nodup
      rw [find, List.length_cons]
      split
      · next same =>
        subst same
        have absent : find entry.1 rest = none := by
          rw [← Option.not_isSome_iff_eq_none, find_isSome_iff_mem]
          exact others
        have rest := ih nodup
        rw [absent] at rest
        rw [List.filter_cons_of_neg (by simp)]
        exact congrArg (· + 1) rest
      · next other =>
        rw [List.filter_cons_of_pos (by simpa using Ne.symm other), List.length_cons, ← ih nodup]
        omega

theorem size_erase {t : Table κ α} (nodup : t.keys.Nodup) (k : κ) :
    (t.erase k).size + (t.get? k).toList.length = t.size :=
  length_filter_ne nodup k

end Table
end StreamTunnel
