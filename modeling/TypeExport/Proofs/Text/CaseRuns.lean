import TypeExport.Text.CaseTable
import TypeExport.Text.LetterSet
import Mathlib.Data.List.Chain
import Mathlib.Tactic.Common

/-!
# Case tables, checked run by run

The case mappings move some 1,400 code points each, and the letter properties change at as many.
What holds of all of them is checked without looking up every code point from the beginning of a
table: a property is walked through once beside a list of runs, and one run is undone by another as
a whole.

* `CaseRun.codes`, `CaseRun.Ascending` — the code points that a run moves, and the order of runs.
* `CodeSet.agrees`, `CodeSet.agreesOn` — a property along ascending code points, and along runs.
* `CodeSet.contains_of_agrees`, `CodeSet.contains_of_agreesOn` — what such a walk says.
* `CaseRun.findSorted` — a run looked up in ascending ones.
* `CaseRun.isUndone`, `CaseRun.returns_of_isUndone` — runs that others move back.
* `CaseMap.codes`, `CaseMap.sortedCodes` — the image of a code point.
-/

namespace TypeExport.Text

/-! ### Runs -/

namespace CaseRun

variable {run : CaseRun} {code : Nat}

/-- The code points that the run moves, in ascending order. -/
def codes (run : CaseRun) : List Nat :=
  (List.range ((run.last - run.first) / run.stride + 1)).map (run.first + run.stride * ·)

/-- A run covers the code points from its first to its last that its stride meets. -/
theorem covers_iff : run.covers code = true ↔
    run.first ≤ code ∧ code ≤ run.last ∧ run.stride ∣ code - run.first := by
  simp [covers, Nat.dvd_iff_mod_eq_zero, and_assoc]

/-- What a run covers is among its codes. -/
theorem mem_codes (h : run.covers code = true) : code ∈ run.codes := by
  obtain ⟨hfirst, hlast, hstride⟩ := covers_iff.mp h
  refine List.mem_map.mpr ⟨(code - run.first) / run.stride, ?_, ?_⟩
  · rw [List.mem_range]
    exact Nat.lt_succ_of_le (Nat.div_le_div_right (Nat.sub_le_sub_right hlast run.first))
  · rw [Nat.mul_div_cancel' hstride]
    omega

/-- The codes of a run are listed in ascending order. -/
theorem pairwise_codes (run : CaseRun) : run.codes.Pairwise (· ≤ ·) := by
  refine List.pairwise_map.mpr (List.pairwise_le_range.imp fun h => ?_)
  exact Nat.add_le_add_left (Nat.mul_le_mul_left run.stride h) run.first

/-- The runs stand in the order in which they begin. -/
def Ascending (runs : List CaseRun) : Prop :=
  runs.Pairwise fun run other => run.first ≤ other.first

/-- Runs ascend if each begins no earlier than the one before it. -/
theorem ascending_of_isChain {runs : List CaseRun}
    (h : runs.IsChain fun run other => run.first ≤ other.first) : Ascending runs := by
  have htrans : IsTrans CaseRun fun run other => run.first ≤ other.first :=
    ⟨fun _ _ _ => Nat.le_trans⟩
  exact h.pairwise

end CaseRun

/-! ### Properties along runs

The checks below are evaluated in proofs, over whole tables.  They recurse by the recursors
themselves and compare by the operations on numbers that evaluate at once, which makes them several
times faster there; an equation says what each of them does. -/

/-- The comparison that the kernel computes on numerals is `≤`. -/
theorem ble_eq_decide (a b : Nat) : Nat.ble a b = decide (a ≤ b) := by
  rw [Bool.eq_iff_iff, Nat.ble_eq, decide_eq_true_eq]

/-- The equality that the kernel computes on numerals is that of the numbers. -/
theorem beq_eq_beq (a b : Nat) : Nat.beq a b = (a == b) := by
  rw [Bool.eq_iff_iff, Nat.beq_eq, beq_iff_eq]

/-- The code point stands in the list. -/
noncomputable def listed (code : Nat) (codes : List Nat) : Bool :=
  codes.rec false fun other _ found => (Nat.beq code other).rec found true

/-- A code is listed exactly if it is a member. -/
theorem listed_iff {code : Nat} {codes : List Nat} : listed code codes = true ↔ code ∈ codes := by
  induction codes with
  | nil => exact ⟨nofun, nofun⟩
  | cons other codes ih =>
    have hstep : listed code (other :: codes) = (Nat.beq code other).rec (listed code codes) true :=
      rfl
    rw [hstep, beq_eq_beq, List.mem_cons, ← ih]
    cases heq : code == other with
    | false => simp [ne_of_beq_false heq]
    | true => simp [eq_of_beq heq]

namespace CodeSet

/-- Membership of a code point, and the borders behind it. -/
noncomputable def crossTo (code : Nat) (borders : List Nat) : Bool → Bool × List Nat :=
  borders.rec (fun inside => (inside, [])) fun border rest cross inside =>
    (Nat.ble border code).rec (inside, border :: rest) (inside.rec (cross true) (cross false))

/-- Walking over a border flips the side; before it, the walk stops. -/
theorem crossTo_cons (code border : Nat) (rest : List Nat) (inside : Bool) :
    crossTo code (border :: rest) inside
      = if code < border then (inside, border :: rest) else crossTo code rest (!inside) := by
  have hstep : crossTo code (border :: rest) inside
      = (Nat.ble border code).rec (inside, border :: rest)
        (inside.rec (crossTo code rest true) (crossTo code rest false)) := rfl
  rw [hstep]
  rw [ble_eq_decide]
  by_cases h : border ≤ code
  · cases inside <;> simp [h]
  · simp [h]

/-- Further code points may be looked up behind the borders that were crossed. -/
theorem crossed_crossTo {code further : Nat} (h : code ≤ further) (inside : Bool)
    (borders : List Nat) :
    crossed (crossTo code borders inside).1 further (crossTo code borders inside).2
      = crossed inside further borders := by
  induction borders generalizing inside with
  | nil => rfl
  | cons border rest ih =>
    rw [crossTo_cons]
    split
    · rfl
    · -- A border that was crossed lies in front of the further code point as well.
      rw [ih, crossed, if_neg (by omega)]

/-- The side on which a walk stops is decided by the borders that are crossed. -/
theorem crossTo_fst (code : Nat) (inside : Bool) (borders : List Nat) :
    (crossTo code borders inside).1 = crossed inside code borders := by
  induction borders generalizing inside with
  | nil => rfl
  | cons border rest ih =>
    rw [crossTo_cons, crossed]
    split
    · rfl
    · exact ih (!inside)

/-- All code points of an ascending list belong to the set, or none does, but for some that are
spared.  The walk begins inside or outside, in front of the given borders. -/
noncomputable def agrees (member : Bool) (spared codes : List Nat) : Bool × List Nat → Bool :=
  codes.rec (fun _ => true) fun code _ agree state =>
    (crossTo code state.2 state.1).rec fun inside borders =>
      (inside == member || listed code spared) && agree (inside, borders)

/-- The same for the code points of runs, in the order in which the runs begin. -/
noncomputable def agreesOn (member : Bool) (spared : List Nat) (runs : List CaseRun) :
    Bool × List Nat → Bool :=
  runs.rec (fun _ => true) fun run _ agree state =>
    (crossTo run.first state.2 state.1).rec fun inside borders =>
      agrees member spared run.codes (inside, borders) && agree (inside, borders)

variable {member : Bool} {spared codes : List Nat} {state : Bool × List Nat} {runs : List CaseRun}

/-- A walk over codes looks at the first one and goes on from where it stopped. -/
theorem agrees_cons (member : Bool) (spared : List Nat) (code : Nat) (codes : List Nat)
    (state : Bool × List Nat) :
    agrees member spared (code :: codes) state
      = (((crossTo code state.2 state.1).1 == member || listed code spared) &&
        agrees member spared codes (crossTo code state.2 state.1)) := rfl

/-- A walk over runs looks at the codes of the first one and goes on from its beginning. -/
theorem agreesOn_cons (member : Bool) (spared : List Nat) (run : CaseRun) (runs : List CaseRun)
    (state : Bool × List Nat) :
    agreesOn member spared (run :: runs) state
      = (agrees member spared run.codes (crossTo run.first state.2 state.1) &&
        agreesOn member spared runs (crossTo run.first state.2 state.1)) := rfl

/-- A walk that agrees on ascending codes puts each of them on the expected side or spares it. -/
theorem crossed_of_agrees (h : agrees member spared codes state = true)
    (hsorted : codes.Pairwise (· ≤ ·)) {code : Nat} (hcode : code ∈ codes) :
    crossed state.1 code state.2 = member ∨ code ∈ spared := by
  induction codes generalizing state with
  | nil => cases hcode
  | cons first codes ih =>
    rw [List.pairwise_cons] at hsorted
    rw [agrees_cons, Bool.and_eq_true, Bool.or_eq_true, beq_iff_eq, listed_iff,
      crossTo_fst] at h
    obtain rfl | hcode := List.mem_cons.mp hcode
    · exact h.1
    · rw [← crossed_crossTo (hsorted.1 code hcode)]
      exact ih h.2 hsorted.2 hcode

/-- A walk that agrees on ascending runs puts all that they cover on the expected side or spares it.
-/
theorem crossed_of_agreesOn (h : agreesOn member spared runs state = true)
    (hsorted : CaseRun.Ascending runs) {run : CaseRun} (hrun : run ∈ runs) {code : Nat}
    (hcode : run.covers code = true) : crossed state.1 code state.2 = member ∨ code ∈ spared := by
  induction runs generalizing state with
  | nil => cases hrun
  | cons first runs ih =>
    rw [CaseRun.Ascending, List.pairwise_cons] at hsorted
    rw [agreesOn_cons, Bool.and_eq_true] at h
    have hfirst : first.first ≤ code := by
      obtain rfl | hin := List.mem_cons.mp hrun
      · exact (CaseRun.covers_iff.mp hcode).1
      · exact Nat.le_trans (hsorted.1 run hin) (CaseRun.covers_iff.mp hcode).1
    -- The walk along the run, and the one along the rest, begin where the run begins.
    rw [← crossed_crossTo hfirst]
    obtain rfl | hrun := List.mem_cons.mp hrun
    · exact crossed_of_agrees h.1 run.pairwise_codes (CaseRun.mem_codes hcode)
    · exact ih h.2 hsorted.2 hrun

/-- What a walk along code points says about each of them. -/
theorem contains_of_agrees {set : CodeSet} (h : agrees member spared codes (false, set.borders))
    (hsorted : codes.IsChain (· ≤ ·)) {code : Nat} (hcode : code ∈ codes) :
    set.contains code = member ∨ code ∈ spared :=
  crossed_of_agrees h hsorted.pairwise hcode

/-- What a walk along runs says about each code point that one of them moves. -/
theorem contains_of_agreesOn {set : CodeSet}
    (h : agreesOn member spared runs (false, set.borders))
    (hsorted : CaseRun.Ascending runs) {run : CaseRun} (hrun : run ∈ runs) {code : Nat}
    (hcode : run.covers code = true) : set.contains code = member ∨ code ∈ spared :=
  crossed_of_agreesOn h hsorted hrun hcode

end CodeSet

/-! ### Looking up -/

namespace CaseRun

variable {code : Nat} {runs : List CaseRun}

/-- The first run that moves the code point, in a list that ascends. -/
noncomputable def findSorted (code : Nat) (runs : List CaseRun) : Option CaseRun :=
  runs.rec none fun run _ found =>
    run.rec fun first last stride _ =>
      (Nat.ble code last).rec found <| (Nat.ble first code).rec none <|
        (Nat.beq (Nat.mod (Nat.sub code first) stride) 0).rec found (some run)

/-- The first run answers, is passed over, or ends the search. -/
theorem findSorted_cons (code : Nat) (run : CaseRun) (runs : List CaseRun) :
    findSorted code (run :: runs)
      = if run.covers code then some run
        else if run.last < code ∨ run.first ≤ code then findSorted code runs else none := by
  have hstep : findSorted code (run :: runs)
      = (Nat.ble code run.last).rec (findSorted code runs) ((Nat.ble run.first code).rec none
        ((Nat.beq (Nat.mod (Nat.sub code run.first) run.stride) 0).rec (findSorted code runs)
          (some run))) := rfl
  have hstride : Nat.beq (Nat.mod (Nat.sub code run.first) run.stride) 0
      = ((code - run.first) % run.stride == 0) := beq_eq_beq _ _
  rw [hstep, ble_eq_decide, ble_eq_decide, hstride, covers]
  by_cases hlast : code ≤ run.last <;> by_cases hfirst : run.first ≤ code <;>
    cases (code - run.first) % run.stride == 0 <;> simp [hlast, hfirst]

/-- Looking up may stop at the first run that begins behind the code point. -/
theorem findSorted_eq (h : Ascending runs) :
    findSorted code runs = runs.find? (·.covers code) := by
  induction runs with
  | nil => rfl
  | cons run runs ih =>
    rw [Ascending, List.pairwise_cons] at h
    rw [findSorted_cons, List.find?_cons]
    cases hcovers : run.covers code with
    | true => rfl
    | false =>
      rw [if_neg Bool.false_ne_true]
      split
      · exact ih h.2
      · next hbefore =>
        -- The other runs begin no earlier than this one, which begins behind the code point.
        symm
        rw [List.find?_eq_none]
        intro other hother hin
        have hfirst := h.1 other hother
        have hother := (covers_iff.mp hin).1
        omega

end CaseRun

/-! ### Runs that are undone -/

namespace CaseRun

/-- The first of the other runs that meets the code points from `first` to `last`, to which the run
moves its own, moves all of them back. -/
noncomputable def undoneBy (run : CaseRun) (first last : Nat) (others : List CaseRun) : Bool :=
  others.rec false fun other _ undone =>
    (Nat.ble first other.last).rec undone <| (Nat.ble other.first last).rec undone <|
      decide (0 ≤ run.first + run.offset) && other.covers first && decide (last ≤ other.last)
        && run.stride % other.stride == 0 && other.offset == -run.offset

/-- The first run that meets the images decides whether they are taken back. -/
theorem undoneBy_cons (run : CaseRun) (first last : Nat) (other : CaseRun)
    (others : List CaseRun) :
    run.undoneBy first last (other :: others)
      = if first ≤ other.last ∧ other.first ≤ last then
          decide (0 ≤ run.first + run.offset) && other.covers first && decide (last ≤ other.last)
            && run.stride % other.stride == 0 && other.offset == -run.offset
        else run.undoneBy first last others := by
  have hstep : run.undoneBy first last (other :: others)
      = (Nat.ble first other.last).rec (run.undoneBy first last others)
        ((Nat.ble other.first last).rec (run.undoneBy first last others)
          (decide (0 ≤ run.first + run.offset) && other.covers first && decide (last ≤ other.last)
            && run.stride % other.stride == 0 && other.offset == -run.offset)) := rfl
  rw [hstep, ble_eq_decide, ble_eq_decide]
  by_cases hlast : first ≤ other.last <;> by_cases hfirst : other.first ≤ last <;>
    simp [hlast, hfirst]

/-- A code point that was moved is moved back. -/
def Returns (others : List CaseRun) (run : CaseRun) (code : Nat) : Prop :=
  ∃ other, others.find? (·.covers (run.target code)) = some other ∧
    other.target (run.target code) = code

variable {run : CaseRun} {others : List CaseRun} {code : Nat}

/-- A run whose images are taken back by one run returns each of its codes. -/
theorem returns_of_undoneBy
    (h : run.undoneBy (run.target run.first) (run.target run.last) others = true)
    (hcode : run.covers code = true) : Returns others run code := by
  obtain ⟨hfirst, hlast, hstride⟩ := covers_iff.mp hcode
  induction others with
  | nil => cases h
  | cons other others ih =>
    rw [undoneBy_cons] at h
    split at h
    · -- The other run covers the image of the first code point, and its stride divides the run's.
      simp only [Bool.and_eq_true, decide_eq_true_eq, beq_iff_eq, covers_iff] at h
      obtain ⟨⟨⟨⟨hnonneg, hbegin, hend, hphase⟩, hwithin⟩, hdivides⟩, hoffset⟩ := h
      have htarget : run.target code = run.target run.first + (code - run.first) := by
        unfold target
        omega
      have hcovers : other.covers (run.target code) = true := by
        have hsum : run.target code - other.first
            = (run.target run.first - other.first) + (code - run.first) := by omega
        refine covers_iff.mpr ⟨by omega, ?_, ?_⟩
        · unfold target at hwithin ⊢
          omega
        · rw [hsum]
          exact Nat.dvd_add hphase (Nat.dvd_trans (Nat.dvd_of_mod_eq_zero hdivides) hstride)
      refine ⟨other, by rw [List.find?_cons, hcovers], ?_⟩
      unfold target at htarget ⊢
      omega
    · next hapart =>
      -- The other run lies apart from the whole image, so it is passed over when one looks up.
      have hnot : other.covers (run.target code) = false := by
        rw [Bool.eq_false_iff, ne_eq, covers_iff]
        unfold target at hapart ⊢
        omega
      obtain ⟨found, hfound, htarget⟩ := ih h
      exact ⟨found, by rw [List.find?_cons, hnot]; exact hfound, htarget⟩

/-- The run is undone as a whole, or code point by code point but for some that are spared. -/
noncomputable def isUndone (others : List CaseRun) (spared : List Nat) (run : CaseRun) : Bool :=
  run.undoneBy (run.target run.first) (run.target run.last) others ||
    run.codes.all fun code =>
      (findSorted (run.target code) others).any (·.target (run.target code) == code) ||
        listed code spared

/-- A run that passes the check returns each of its codes, but for the spared ones. -/
theorem returns_of_isUndone {spared : List Nat} (h : run.isUndone others spared = true)
    (hsorted : Ascending others) (hcode : run.covers code = true) :
    code ∈ spared ∨ Returns others run code := by
  rw [isUndone, Bool.or_eq_true, List.all_eq_true] at h
  obtain hrun | hcodes := h
  · exact .inr (returns_of_undoneBy hrun hcode)
  · have hone := hcodes code (mem_codes hcode)
    rw [Bool.or_eq_true, listed_iff, findSorted_eq hsorted, Option.any_eq_true] at hone
    exact hone.symm.imp_right fun ⟨other, hfound, hback⟩ => ⟨other, hfound, beq_iff_eq.mp hback⟩

end CaseRun

/-! ### Images by code point -/

namespace CaseMap

variable {mapping : CaseMap} {code : Nat}

/-- The code points of the image of a code point. -/
def codes (mapping : CaseMap) (code : Nat) : List Nat :=
  match mapping.runs.find? (·.covers code) with
  | some run => [run.target code]
  | none => (mapping.expansions.lookup code).getD [code]

/-- The image of a character is spelled by the codes that its code point is mapped to. -/
theorem image_eq (mapping : CaseMap) (c : Char) :
    mapping.image c = (mapping.codes c.toNat).map Char.ofNat := by
  unfold image codes
  cases mapping.runs.find? (·.covers c.toNat) with
  | some run => rfl
  | none =>
    cases mapping.expansions.lookup c.toNat with
    | some codes => rfl
    | none => simp

/-- The code points that a list of expansions gives for one. -/
noncomputable def expanded (code : Nat) (expansions : List (Nat × List Nat)) : List Nat :=
  expansions.rec [code] fun expansion _ found =>
    expansion.rec fun key image => (Nat.beq key code).rec found image

/-- The table of expansions is looked up, and a code that it does not list stays as it is. -/
theorem expanded_eq (code : Nat) (expansions : List (Nat × List Nat)) :
    expanded code expansions = (expansions.lookup code).getD [code] := by
  induction expansions with
  | nil => rfl
  | cons expansion expansions ih =>
    obtain ⟨key, image⟩ := expansion
    have hstep : expanded code ((key, image) :: expansions)
        = (Nat.beq key code).rec (expanded code expansions) image := rfl
    rw [hstep, ih, List.lookup_cons, beq_eq_beq, BEq.comm]
    cases code == key <;> rfl

/-- The image of a code point under a mapping whose runs ascend. -/
noncomputable def sortedCodes (mapping : CaseMap) (code : Nat) : List Nat :=
  (CaseRun.findSorted code mapping.runs).rec (expanded code mapping.expansions)
    fun run => [run.target code]

/-- Over ascending runs, the search that stops early finds what the search to the end finds. -/
theorem sortedCodes_eq (h : CaseRun.Ascending mapping.runs) :
    mapping.sortedCodes = mapping.codes := by
  funext code
  rw [sortedCodes, codes, CaseRun.findSorted_eq h, expanded_eq]
  cases mapping.runs.find? (·.covers code) <;> rfl

end CaseMap

end TypeExport.Text
