import Mathlib.Data.List.Induction
import SheetCompiler.Pipeline

/-!
# Registration

Processors are registered one after the other, each into its place in the order of its
stage. That order is the stable sort by priority of the order of registration.
-/

set_option autoImplicit false

namespace SheetCompiler

/-! ## Order in a stage -/

/-- Sorted by priority, with processors of one priority in the order of registration. -/
structure StablySorted {ι σ α : Type} (registered sorted : List (Processor ι σ α)) : Prop where
  perm : sorted.Perm registered
  ordered : sorted.Pairwise fun former later => former.priority ≤ later.priority
  stable : ∀ priority,
    sorted.filter (fun processor => processor.priority = priority) =
      registered.filter fun processor => processor.priority = priority

section Order

variable {ι σ α : Type} {processor : Processor ι σ α} {sorted registered : List (Processor ι σ α)}

theorem insert_perm (processor : Processor ι σ α) (sorted : List (Processor ι σ α)) :
    (processor.insert sorted).Perm (processor :: sorted) := by
  induction sorted with
  | nil => exact List.Perm.refl _
  | cons other others ih =>
      rw [Processor.insert]
      split
      · exact List.Perm.refl _
      · exact (ih.cons other).trans (List.Perm.swap processor other others)

theorem pairwise_insert
    (ordered : sorted.Pairwise fun former later => former.priority ≤ later.priority) :
    (processor.insert sorted).Pairwise fun former later => former.priority ≤ later.priority := by
  induction sorted with
  | nil => exact List.pairwise_singleton _ _
  | cons other others ih =>
      obtain ⟨least, rest⟩ := List.pairwise_cons.mp ordered
      rw [Processor.insert]
      split
      · rename_i before
        refine List.pairwise_cons.mpr ⟨fun later listed => ?_, ordered⟩
        rcases List.mem_cons.mp listed with rfl | member
        · exact Int.le_of_lt before
        · exact Int.le_trans (Int.le_of_lt before) (least later member)
      · rename_i after
        refine List.pairwise_cons.mpr ⟨fun later listed => ?_, ih rest⟩
        rcases List.mem_cons.mp ((insert_perm processor others).mem_iff.mp listed) with
          rfl | member
        · exact Int.not_lt.mp after
        · exact least later member

/-- A processor goes behind those of its own priority. -/
theorem filter_insert (priority : Int)
    (ordered : sorted.Pairwise fun former later => former.priority ≤ later.priority) :
    (processor.insert sorted).filter (fun other => other.priority = priority) =
      sorted.filter (fun other => other.priority = priority) ++
        [processor].filter fun other => other.priority = priority := by
  induction sorted with
  | nil => rfl
  | cons other others ih =>
      obtain ⟨least, rest⟩ := List.pairwise_cons.mp ordered
      rw [Processor.insert]
      split
      · rename_i before
        by_cases same : processor.priority = priority
        · have none : (other :: others).filter (fun other => other.priority = priority) = [] := by
            refine List.filter_eq_nil_iff.mpr fun later listed equal => ?_
            have after : other.priority ≤ later.priority := by
              rcases List.mem_cons.mp listed with rfl | member
              · exact Int.le_refl _
              · exact least later member
            have equal := of_decide_eq_true equal
            omega
          rw [List.filter_cons_of_pos (by simpa using same), none,
            List.filter_cons_of_pos (by simpa using same)]
          rfl
        · have none : [processor].filter (fun other => other.priority = priority) = [] :=
            List.filter_cons_of_neg (by simpa using same)
          rw [List.filter_cons_of_neg (by simpa using same), none, List.append_nil]
      · rw [List.filter_cons, List.filter_cons, ih rest]
        split <;> rfl

theorem StablySorted.insert (sorting : StablySorted registered sorted)
    (processor : Processor ι σ α) :
    StablySorted (registered ++ [processor]) (processor.insert sorted) where
  perm := ((insert_perm processor sorted).trans (sorting.perm.cons processor)).trans
    (List.perm_append_singleton processor registered).symm
  ordered := pairwise_insert sorting.ordered
  stable priority := by
    rw [filter_insert priority sorting.ordered, sorting.stable, List.filter_append]

end Order

/-! ## Registration -/

/-- A processor that is registered for the stage of its kind. -/
inductive Registration where
  | pre (processor : PreProcessor)
  | generator (processor : CodeGenerator)
  | data (processor : DataProcessor)
  | validator (processor : Validator)
  | post (processor : PostProcessor)

namespace Registration

def addTo (pipeline : Pipeline) : Registration → Pipeline
  | .pre processor => pipeline.addPreProcessor processor
  | .generator processor => pipeline.addCodeGenerator processor
  | .data processor => pipeline.addDataProcessor processor
  | .validator processor => pipeline.addValidator processor
  | .post processor => pipeline.addPostProcessor processor

def pre? : Registration → Option PreProcessor
  | .pre processor => some processor
  | _ => none

def generator? : Registration → Option CodeGenerator
  | .generator processor => some processor
  | _ => none

def data? : Registration → Option DataProcessor
  | .data processor => some processor
  | _ => none

def validator? : Registration → Option Validator
  | .validator processor => some processor
  | _ => none

def post? : Registration → Option PostProcessor
  | .post processor => some processor
  | _ => none

end Registration

/-- The pipeline of processors that are registered in an order. -/
def Pipeline.ofRegistrations (options : RunOptions) (registrations : List Registration) : Pipeline :=
  registrations.foldl Registration.addTo (.ofOptions options)

/-- A pipeline whose stages have the order that registration gives them. -/
structure Pipeline.Registered (pipeline : Pipeline) (registrations : List Registration) : Prop where
  pre : StablySorted (registrations.filterMap Registration.pre?) pipeline.pre
  generators : StablySorted (registrations.filterMap Registration.generator?) pipeline.generators
  data : StablySorted (registrations.filterMap Registration.data?) pipeline.data
  validators : StablySorted (registrations.filterMap Registration.validator?) pipeline.validators
  post : StablySorted (registrations.filterMap Registration.post?) pipeline.post

theorem Pipeline.Registered.addTo {pipeline : Pipeline} {registrations : List Registration}
    (registered : pipeline.Registered registrations) (registration : Registration) :
    (registration.addTo pipeline).Registered (registrations ++ [registration]) := by
  obtain ⟨pre, generators, data, validators, post⟩ := registered
  cases registration with
  | pre processor =>
      constructor <;> rw [List.filterMap_append]
      case pre => exact pre.insert processor
      all_goals rw [show List.filterMap _ [_] = [] from rfl, List.append_nil]; assumption
  | generator processor =>
      constructor <;> rw [List.filterMap_append]
      case generators => exact generators.insert processor
      all_goals rw [show List.filterMap _ [_] = [] from rfl, List.append_nil]; assumption
  | data processor =>
      constructor <;> rw [List.filterMap_append]
      case data => exact data.insert processor
      all_goals rw [show List.filterMap _ [_] = [] from rfl, List.append_nil]; assumption
  | validator processor =>
      constructor <;> rw [List.filterMap_append]
      case validators => exact validators.insert processor
      all_goals rw [show List.filterMap _ [_] = [] from rfl, List.append_nil]; assumption
  | post processor =>
      constructor <;> rw [List.filterMap_append]
      case post => exact post.insert processor
      all_goals rw [show List.filterMap _ [_] = [] from rfl, List.append_nil]; assumption

theorem Pipeline.registered_ofRegistrations (options : RunOptions)
    (registrations : List Registration) :
    (ofRegistrations options registrations).Registered registrations := by
  induction registrations using List.reverseRecOn with
  | nil =>
      have none {ι σ α : Type} : StablySorted ([] : List (Processor ι σ α)) [] :=
        ⟨.nil, .nil, fun _ => rfl⟩
      exact ⟨none, none, none, none, none⟩
  | append_singleton registrations registration ih =>
      rw [ofRegistrations, List.foldl_append]
      exact ih.addTo registration

end SheetCompiler
