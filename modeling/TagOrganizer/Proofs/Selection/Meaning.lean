import TagOrganizer.Proofs.Evaluation
import TagOrganizer.Selection.ConditionSet

/-!
# Meaning of conditions

What a condition says about the tags of a file, given which tag belongs to which group. Resolvers
that give the first tag of a group, as all those of the program do, evaluate conditions to what they
say.
-/

namespace TagOrganizer

namespace Resolver

/-- Whether a tag belongs to a group, apart from what is told about it. -/
def belongs (resolver : Resolver) (tag group : String) : Bool :=
  (resolver.isMember tag group).value

/-- Whether the representative of a group is always the first tag that belongs to it. -/
def PicksFirst (resolver : Resolver) : Prop :=
  ∀ tags group, (resolver.representative tags group).value =
    tags.find? fun tag => resolver.belongs tag group

theorem value_firstMember (isMember : (tag group : String) → Logged Bool) (tags : List String)
    (group : String) :
    (firstMember isMember tags group).value =
      tags.find? fun tag => (isMember tag group).value :=
  Logged.value_findM? _ _

theorem picksFirst_ofMembership (isMember : (tag group : String) → Logged Bool) :
    (ofMembership isMember).PicksFirst :=
  value_firstMember isMember

end Resolver

theorem GroupTable.not_isMember_of_not_contains {table : GroupTable} {group : String}
    (unknown : table.contains group = false) (tag : String) :
    (table.isMember tag group).value = false := by
  have missing : table.find? group = none := by
    simpa [GroupTable.contains] using unknown
  unfold isMember
  rw [memberAlong]
  split
  · rfl
  · rename_i found
    rw [missing] at found
    cases found

theorem GroupTable.picksFirst_resolver (table : GroupTable) : table.resolver.PicksFirst := by
  intro tags group
  simp only [resolver, Resolver.belongs]
  cases known : table.contains group with
  | true => exact Resolver.value_firstMember _ _ _
  | false =>
      have none_belongs : (tags.find? fun tag => (table.isMember tag group).value) = none := by
        rw [List.find?_eq_none]
        intro tag _
        simp [not_isMember_of_not_contains known]
      simp [none_belongs]

/-- Whether a condition is met by some tags. -/
def Condition.meets (tags : List String) (belongs : (tag group : String) → Bool) :
    Condition → Bool
  | all => true
  | tag name => tags.contains name
  | group name => tags.any fun tag => belongs tag name
  | category name => tags.any fun tag => belongs tag name
  | not condition => !condition.meets tags belongs

variable {resolver : Resolver}

theorem Resolver.PicksFirst.isSome_representative (picks : resolver.PicksFirst)
    (tags : List String) (group : String) :
    (resolver.representative tags group).value.isSome =
      tags.any fun tag => resolver.belongs tag group := by
  rw [picks, Bool.eq_iff_iff, List.find?_isSome, List.any_eq_true]

theorem Condition.value_holds (picks : resolver.PicksFirst) (tags : List String)
    (condition : Condition) :
    (condition.holds tags resolver).value = condition.meets tags resolver.belongs := by
  induction condition with
  | tag name => rfl
  | group name => simp [holds, meets, picks.isSome_representative]
  | category name => simp [holds, meets, picks.isSome_representative]
  | all => rfl
  | not condition ih => simp [holds, meets, ih]

theorem ConditionSet.value_holds (picks : resolver.PicksFirst) (tags : List String)
    (set : ConditionSet) :
    (set.holds tags resolver).value =
      set.conditions.all fun condition => condition.meets tags resolver.belongs := by
  rw [holds, Logged.value_allM]
  congr 1
  funext condition
  exact Condition.value_holds picks tags condition

end TagOrganizer
