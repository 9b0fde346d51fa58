import Mathlib.Data.List.Induction
import ServiceBus.Wire.Codec

/-!
Maps as lists of their entries. Entries that are inserted in a row come to a map in which every key
has the value of its last entry. Of all the lists that come to one map, one only is in the strict
order of the keys, and that is the list of the map's own entries.
-/
namespace ServiceBus.Wire

variable {α β : Type}

def Last (l : List (α × β)) (k : α) (v : β) : Prop :=
  ∃ before after, l = before ++ (k, v) :: after ∧ ∀ w, (k, w) ∉ after

theorem Last.mem {l : List (α × β)} {k : α} {v : β} (h : Last l k v) : (k, v) ∈ l := by
  obtain ⟨before, after, rfl, -⟩ := h
  simp

theorem not_last_nil (k : α) (v : β) : ¬ Last [] k v := fun h => nomatch h.mem

theorem last_concat {l : List (α × β)} {e : α × β} {k : α} {v : β} :
    Last (l ++ [e]) k v ↔ e = (k, v) ∨ e.1 ≠ k ∧ Last l k v := by
  constructor
  · rintro ⟨before, after, h, latest⟩
    rcases List.eq_nil_or_concat after with rfl | ⟨init, e', rfl⟩
    · obtain ⟨-, same⟩ := List.append_inj' h rfl
      exact .inl (List.singleton_inj.1 same)
    · have split : l ++ [e] = (before ++ (k, v) :: init) ++ [e'] := by simpa using h
      obtain ⟨rfl, same⟩ := List.append_inj' split rfl
      obtain rfl := List.singleton_inj.1 same
      refine .inr ⟨?_, before, init, rfl, fun w hw => latest w (by simp [hw])⟩
      rintro rfl
      exact latest e.2 (by simp)
  · rintro (rfl | ⟨ne, before, after, rfl, latest⟩)
    · exact ⟨l, [], rfl, by simp⟩
    · refine ⟨before, after ++ [e], by simp, fun w hw => ?_⟩
      rcases List.mem_append.1 hw with old | new
      · exact latest w old
      · exact ne (congrArg Prod.fst (List.mem_singleton.1 new)).symm

section Maps

variable {cmp : α → α → Ordering} [Std.TransCmp cmp]

theorem ofList_concat (l : List (α × β)) (e : α × β) :
    Std.ExtTreeMap.ofList (l ++ [e]) cmp = (Std.ExtTreeMap.ofList l cmp).insert e.1 e.2 := by
  simp only [Std.ExtTreeMap.ofList_eq_insertMany_empty, Std.ExtTreeMap.insertMany_append]
  exact Std.ExtTreeMap.insertMany_list_singleton

def Increasing (cmp : α → α → Ordering) (l : List (α × β)) : Prop :=
  l.Pairwise fun a b => cmp a.1 b.1 = .lt

theorem increasing_toList (m : Std.ExtTreeMap α β cmp) : Increasing cmp m.toList :=
  Std.ExtTreeMap.ordered_keys_toList

theorem Increasing.ne {l : List (α × β)} (h : Increasing cmp l) :
    l.Pairwise fun a b => a.1 ≠ b.1 := by
  refine h.imp fun {a b} less same => ?_
  have equal : cmp b.1 b.1 = .eq := Std.ReflCmp.compare_self
  rw [same, equal] at less
  cases less

theorem Increasing.nodup {l : List (α × β)} (h : Increasing cmp l) : l.Nodup :=
  h.ne.imp fun ne same => ne (congrArg Prod.fst same)

/-- Entries can be put in the order of their keys in one way only. -/
theorem Increasing.eq {l l' : List (α × β)} (h : Increasing cmp l) (h' : Increasing cmp l')
    (same : ∀ e, e ∈ l ↔ e ∈ l') : l = l' := by
  refine List.Perm.eq_of_pairwise (fun a b _ _ less greater => ?_) h h' ?_
  · exact absurd greater (Std.OrientedCmp.not_lt_of_lt less)
  · exact (List.perm_ext_iff_of_nodup h.nodup h'.nodup).2 same

variable [Std.LawfulEqCmp cmp]

/-- Of several entries with one key the last counts. -/
theorem getElem?_ofList_iff {l : List (α × β)} {k : α} {v : β} :
    (Std.ExtTreeMap.ofList l cmp)[k]? = some v ↔ Last l k v := by
  induction l using List.reverseRecOn with
  | nil => simp [not_last_nil]
  | append_singleton l e ih =>
    rw [ofList_concat, Std.ExtTreeMap.getElem?_insert, last_concat]
    by_cases same : e.1 = k
    · simp [same, Prod.ext_iff, Std.ReflCmp.compare_self]
    · have other : cmp e.1 k ≠ .eq := mt Std.LawfulEqCmp.eq_of_compare same
      simp [same, other, Prod.ext_iff, ih]

theorem mem_toList_ofList_iff {l : List (α × β)} {k : α} {v : β} :
    (k, v) ∈ (Std.ExtTreeMap.ofList l cmp).toList ↔ Last l k v :=
  Std.ExtTreeMap.mem_toList_iff_getElem?_eq_some.trans getElem?_ofList_iff

theorem mem_ofList_iff {l : List (α × β)} {k : α} :
    k ∈ Std.ExtTreeMap.ofList l cmp ↔ ∃ v, (k, v) ∈ l := by
  classical
  rw [Std.ExtTreeMap.mem_ofList, List.contains_iff_mem, List.mem_map]
  constructor
  · rintro ⟨⟨_, v⟩, member, rfl⟩
    exact ⟨v, member⟩
  · rintro ⟨v, member⟩
    exact ⟨(k, v), member, rfl⟩

theorem eq_toList_iff {m : Std.ExtTreeMap α β cmp} {l : List (α × β)} :
    l = m.toList ↔ Increasing cmp l ∧ ∀ k v, (k, v) ∈ l ↔ m[k]? = some v := by
  constructor
  · rintro rfl
    exact ⟨increasing_toList m, fun k v => Std.ExtTreeMap.mem_toList_iff_getElem?_eq_some⟩
  · rintro ⟨sorted, entries⟩
    refine sorted.eq (increasing_toList m) fun ⟨k, v⟩ => ?_
    exact (entries k v).trans Std.ExtTreeMap.mem_toList_iff_getElem?_eq_some.symm

end Maps

end ServiceBus.Wire
