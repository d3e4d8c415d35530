import TypeExport.Enumeration
import Mathlib.Data.List.Count

/-!
# Superseded members

An obsolete member has no description if another member has taken over its value.  Members that are
not obsolete all keep theirs, so the values that count as taken over are the same before and after:
a second pass, or a pass in another order, finds nothing more to leave out.

* `EnumMember.IsSuperseded` — a current member of the list has the value of an obsolete one.
* `mem_described_iff`, `count_described` — which members have descriptions.
* `hasCurrent_congr`, `hasCurrent_described` — the values of current members.
* `described_eq_filter` — all that counts is which values are current.
* `only_superseded_left_out` — what leaving out superseded members keeps.
-/

namespace TypeExport

variable {members : List EnumMember} {member : EnumMember}

/-! ### Current values -/

/-- The member is obsolete, and a member that is not has its value. -/
def EnumMember.IsSuperseded (members : List EnumMember) (member : EnumMember) : Prop :=
  member.isObsolete = true ∧
    ∃ current ∈ members, current.isObsolete = false ∧ current.value = member.value

instance (members : List EnumMember) (member : EnumMember) :
    Decidable (member.IsSuperseded members) :=
  inferInstanceAs (Decidable (_ ∧ ∃ current ∈ members, _))

/-- A value has a current member exactly if a member that is not obsolete has it. -/
theorem hasCurrent_iff {value : Int} :
    hasCurrent members value = true ↔
      ∃ current ∈ members, current.isObsolete = false ∧ current.value = value := by
  simp [hasCurrent]

/-- Current values depend on which members there are. -/
theorem hasCurrent_congr {members' : List EnumMember}
    (h : ∀ member, member.isObsolete = false → (member ∈ members' ↔ member ∈ members))
    (value : Int) : hasCurrent members' value = hasCurrent members value := by
  rw [Bool.eq_iff_iff, hasCurrent_iff, hasCurrent_iff]
  constructor
  · rintro ⟨current, hmem, hcurrent, hvalue⟩
    exact ⟨current, (h current hcurrent).mp hmem, hcurrent, hvalue⟩
  · rintro ⟨current, hmem, hcurrent, hvalue⟩
    exact ⟨current, (h current hcurrent).mpr hmem, hcurrent, hvalue⟩

/-! ### Members with descriptions -/

/-- The test that a pass makes of each member. -/
theorem passes_iff :
    (!(member.isObsolete && hasCurrent members member.value)) = true
      ↔ ¬ member.IsSuperseded members := by
  rw [EnumMember.IsSuperseded, ← hasCurrent_iff, Bool.not_eq_true', ← Bool.and_eq_true,
    Bool.not_eq_true]

/-- The described members are those that are not superseded. -/
theorem mem_described_iff :
    member ∈ described members ↔ member ∈ members ∧ ¬ member.IsSuperseded members := by
  rw [described, List.mem_filter, passes_iff]

/-- A current member keeps its description. -/
theorem mem_described_of_current (h : member.isObsolete = false) :
    member ∈ described members ↔ member ∈ members := by
  have hnot : ¬ member.IsSuperseded members := fun hsuperseded => by
    rw [hsuperseded.1] at h
    cases h
  rw [mem_described_iff, and_iff_left hnot]

/-- The members that are left out are left out wherever they stand, and the others nowhere. -/
theorem count_described :
    (described members).count member
      = if member.IsSuperseded members then 0 else members.count member := by
  by_cases hsuperseded : member.IsSuperseded members
  · rw [if_pos hsuperseded, List.count_eq_zero, mem_described_iff]
    exact fun h => h.2 hsuperseded
  · rw [if_neg hsuperseded]
    exact List.count_filter (passes_iff.mpr hsuperseded)

/-- No value is lost: if its last current member were missing, that would not be obsolete. -/
theorem exists_mem_described (h : member ∈ members) :
    ∃ kept ∈ described members, kept.value = member.value := by
  by_cases hsuperseded : member.IsSuperseded members
  · obtain ⟨-, current, hmem, hcurrent, hvalue⟩ := hsuperseded
    exact ⟨current, (mem_described_of_current hcurrent).mpr hmem, hvalue⟩
  · exact ⟨member, mem_described_iff.mpr ⟨h, hsuperseded⟩, rfl⟩

/-! ### Other passes -/

/-- Only the current values count: where they are the same, a pass leaves out the same members. -/
theorem described_eq_filter {members' : List EnumMember}
    (h : ∀ value, hasCurrent members' value = hasCurrent members value) :
    described members'
      = members'.filter fun member => !(member.isObsolete && hasCurrent members member.value) := by
  unfold described
  simp only [h]

/-- Another order gives the same members in that order. -/
theorem described_perm {members' : List EnumMember} (h : members'.Perm members) :
    (described members').Perm (described members) := by
  rw [described_eq_filter (hasCurrent_congr fun _ _ => h.mem_iff)]
  exact h.filter _

/-- A second pass leaves out nothing, whatever order the members have then. -/
theorem described_of_perm {kept : List EnumMember} (h : kept.Perm (described members)) :
    described kept = kept := by
  have hcurrent : ∀ value, hasCurrent kept value = hasCurrent members value :=
    hasCurrent_congr fun _ hcurrent => h.mem_iff.trans (mem_described_of_current hcurrent)
  rw [described_eq_filter hcurrent, List.filter_eq_self]
  intro member hmember
  exact (List.mem_filter.mp (h.mem_iff.mp hmember)).2

/-- **Superseded members** alone are left out, and the others keep their order.  Every value is
kept, and neither a second pass nor one in another order leaves out any other member. -/
theorem only_superseded_left_out (members : List EnumMember) :
    (described members).Sublist members ∧
      (∀ member ∈ members, member ∉ described members ↔ member.IsSuperseded members) ∧
      (∀ member, (described members).count member
        = if member.IsSuperseded members then 0 else members.count member) ∧
      (∀ member ∈ members, ∃ kept ∈ described members, kept.value = member.value) ∧
      (∀ reordered : List EnumMember, reordered.Perm members →
        (described reordered).Perm (described members)) ∧
      ∀ reordered : List EnumMember, reordered.Perm (described members) →
        described reordered = reordered := by
  refine ⟨List.filter_sublist, fun member hmember => ?_, fun member => count_described,
    fun member hmember => exists_mem_described hmember, fun _ hperm => described_perm hperm,
    fun _ hperm => described_of_perm hperm⟩
  rw [mem_described_iff, not_and, not_not]
  exact forall_prop_of_true hmember

/-- Answers: the first was renamed, and no member has taken over the value of the last two. -/
def answers : List EnumMember :=
  [{ name := "Yes", value := 1, isObsolete := true },
    { name := "True", value := 1 },
    { name := "Perhaps", value := 2, isObsolete := true },
    { name := "Maybe", value := 2, isObsolete := true }]

/-- The renamed answer is left out, and those whose value nothing has taken over stay. -/
theorem only_superseded_left_out_answers :
    { name := "Yes", value := 1, isObsolete := true } ∉ described answers ∧
      (∃ kept ∈ described answers, kept.value = 2) ∧
      (described answers.reverse).Perm (described answers) ∧
      described (described answers).reverse = (described answers).reverse := by
  obtain ⟨-, hmissing, -, hvalue, hperm, hagain⟩ := only_superseded_left_out answers
  exact ⟨(hmissing _ (by decide)).mpr (by decide),
    hvalue { name := "Maybe", value := 2, isObsolete := true } (by decide),
    hperm _ (List.reverse_perm answers), hagain _ (List.reverse_perm (described answers))⟩

example : (described answers).map (·.name) = ["True", "Perhaps", "Maybe"] := by decide

end TypeExport
