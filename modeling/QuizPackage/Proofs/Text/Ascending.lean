import QuizPackage.Identifier
import Mathlib.Data.List.Nodup

namespace QuizPackage

instance : Std.Trichotomous (fun first second : Identifier => first < second) where
  trichotomous first second notBefore notAfter := by
    cases first
    cases second
    exact congrArg Identifier.mk
      (Std.Trichotomous.trichotomous (r := (· < ·)) _ _ notBefore notAfter)

instance : Std.Irrefl (fun first second : Identifier => first < second) where
  irrefl identifier := String.lt_irrefl identifier.text

instance : IsTrans Identifier (fun first second : Identifier => first < second) where
  trans _ _ _ := String.lt_trans

namespace Text

variable {α : Type} [LT α] [DecidableLT α]
  [Std.Trichotomous (fun first second : α => first < second)] {value other : α} {values : List α}

theorem mem_insertAscending :
    value ∈ insertAscending other values ↔ value = other ∨ value ∈ values := by
  induction values with
  | nil => simp [insertAscending]
  | cons first rest ih =>
      unfold insertAscending
      split
      · simp
      · rename_i notBefore
        split
        · rw [List.mem_cons, ih, List.mem_cons, or_left_comm]
        · rename_i notAfter
          have same : other = first := Std.Trichotomous.trichotomous other first notBefore notAfter
          simp [same]

theorem mem_ascending : value ∈ ascending values ↔ value ∈ values := by
  induction values with
  | nil => rfl
  | cons first rest ih =>
      change value ∈ insertAscending first (ascending rest) ↔ _
      rw [mem_insertAscending, ih, List.mem_cons]

section

variable [IsTrans α (fun first second : α => first < second)]

theorem pairwise_insertAscending (ordered : values.Pairwise (· < ·)) :
    (insertAscending value values).Pairwise (· < ·) := by
  induction values with
  | nil => exact List.pairwise_singleton _ _
  | cons first rest ih =>
      obtain ⟨least, later⟩ := List.pairwise_cons.mp ordered
      unfold insertAscending
      split
      · rename_i before
        refine List.pairwise_cons.mpr ⟨List.forall_mem_cons.mpr ⟨before, ?_⟩, ordered⟩
        exact fun other member => IsTrans.trans value first other before (least other member)
      · split
        · rename_i after
          refine List.pairwise_cons.mpr ⟨fun other member => ?_, ih later⟩
          rcases mem_insertAscending.mp member with rfl | member
          · exact after
          · exact least other member
        · exact ordered

variable [Std.Irrefl (fun first second : α => first < second)]

theorem nodup_ascending (values : List α) : (ascending values).Nodup := by
  have ordered : (ascending values).Pairwise (· < ·) := by
    induction values with
    | nil => exact .nil
    | cons first rest ih => exact pairwise_insertAscending ih
  refine ordered.imp fun {first second} before => ?_
  rintro rfl
  exact Std.Irrefl.irrefl (r := (· < ·)) first before

/-- An injective map leaves as many distinct values. -/
theorem length_ascending_map {convert : α → α} (injective : Function.Injective convert)
    (values : List α) :
    (ascending (values.map convert)).length = (ascending values).length := by
  have same : (ascending (values.map convert)).Perm ((ascending values).map convert) := by
    rw [List.perm_ext_iff_of_nodup (nodup_ascending _) ((nodup_ascending values).map injective)]
    simp [mem_ascending]
  rw [same.length_eq, List.length_map]

end

end Text

end QuizPackage
