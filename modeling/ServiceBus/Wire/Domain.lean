import Std.Data.ExtTreeMap.Basic
import Std.Data.ExtTreeMap.Lemmas

/-!
Types of values together with the order of their values, where they have one. Lists are ordered
by their first difference, options have nothing before something, and maps are ordered as the
lists of their entries.
-/
namespace ServiceBus.Wire

structure Comparison (α : Type) where
  cmp : α → α → Ordering
  trans : Std.TransCmp cmp
  lawful : Std.LawfulEqCmp cmp

namespace Comparison

variable {α β : Type}

instance (c : Comparison α) : Std.TransCmp c.cmp := c.trans
instance (c : Comparison α) : Std.LawfulEqCmp c.cmp := c.lawful

@[reducible] def ofOrd (α : Type) [Ord α] [Std.TransOrd α] [Std.LawfulEqOrd α] : Comparison α :=
  ⟨compare, inferInstance, inferInstance⟩

def unit : Comparison Unit where
  cmp _ _ := .eq
  trans := { eq_swap := rfl, isLE_trans := fun h _ => h }
  lawful := { compare_self := rfl, eq_of_compare := fun _ => rfl }

def list (c : Comparison α) : Comparison (List α) :=
  ⟨List.compareLex c.cmp, inferInstance, inferInstance⟩

def option (c : Comparison α) : Comparison (Option α) :=
  letI : Ord α := ⟨c.cmp⟩
  haveI : Std.TransOrd α := c.trans
  haveI : Std.LawfulEqOrd α := c.lawful
  ofOrd (Option α)

theorem trans_on (c : Comparison α) (f : β → α) : Std.TransCmp fun a b => c.cmp (f a) (f b) where
  eq_swap := Std.OrientedCmp.eq_swap
  isLE_trans := Std.TransCmp.isLE_trans

def on (c : Comparison α) (f : β → α) (injective : ∀ a b, f a = f b → a = b) : Comparison β where
  cmp a b := c.cmp (f a) (f b)
  trans := c.trans_on f
  lawful :=
    { compare_self := Std.ReflCmp.compare_self
      eq_of_compare := fun h => injective _ _ (Std.LawfulEqCmp.eq_of_compare h) }

def pair (c : Comparison α) (d : Comparison β) : Comparison (α × β) where
  cmp := compareLex (fun p q => c.cmp p.1 q.1) (fun p q => d.cmp p.2 q.2)
  trans :=
    haveI := c.trans_on (Prod.fst : α × β → α)
    haveI := d.trans_on (Prod.snd : α × β → β)
    inferInstance
  lawful :=
    { compare_self := by simp [compareLex, Std.ReflCmp.compare_self]
      eq_of_compare := fun h => by
        rw [compareLex_eq_eq] at h
        exact Prod.ext (Std.LawfulEqCmp.eq_of_compare h.1) (Std.LawfulEqCmp.eq_of_compare h.2) }

def map (c : Comparison α) (d : Comparison β) : Comparison (Std.ExtTreeMap α β c.cmp) :=
  (c.pair d).list.on (fun m => m.toList) fun _ _ => Std.ExtTreeMap.toList_inj.1

end Comparison

end ServiceBus.Wire
