import MicroserviceCommon.System.CpuStatus

/-!
# The statistics lines of the cores

The lines are found by `cpu` and a counter from `0`, anywhere in the line. The numbers of the cores
that are online do not follow the counter when others are offline.

* `core_stat_lines_iff` — every core gets its own line exactly when the number of the `j`-th core
  begins with the digits of `j`
* `positionsMatch_of_all_online` — this is so when no core is offline
* `own_line_not_found` — with the cores `0` and `2` the vector of lines is too short
-/

namespace MicroserviceCommon.SystemMonitor

open Infra

/-! ## Lines and names -/

theorem not_mem_countersText (values : List Nat) : 'c' ∉ countersText values := by
  intro h
  obtain ⟨n, _, hc⟩ := List.mem_flatMap.mp h
  rcases List.mem_cons.mp hc with hc | hc
  · cases hc
  · exact absurd (isDigit_of_mem_toDigits hc) (by decide)

/-- A line has `cpu` at its beginning only. -/
theorem cpuName_infix_iff (j : Nat) {text : Line} (h : 'c' ∉ text) :
    cpuName j <:+: 'c' :: 'p' :: 'u' :: text ↔ Nat.toDigits 10 j <+: text := by
  have hrest : ¬ cpuName j <:+: 'p' :: 'u' :: text := by
    intro hinfix
    have hmem := hinfix.subset (show 'c' ∈ cpuName j from List.mem_cons_self)
    simp only [List.mem_cons, h, or_false] at hmem
    rcases hmem with hc | hc <;> cases hc
  rw [List.infix_cons_iff, or_iff_left hrest]
  show 'c' :: 'p' :: 'u' :: Nat.toDigits 10 j <+: 'c' :: 'p' :: 'u' :: text ↔ _
  rw [List.cons_prefix_cons, List.cons_prefix_cons, List.cons_prefix_cons]
  simp only [true_and]

/-- **A counter is found in the line of a core that begins with its digits.** -/
theorem cpuName_infix_coreLine (j cpu : Nat) (values : List Nat) :
    cpuName j <:+: coreLine cpu values ↔ Nat.toDigits 10 j <+: Nat.toDigits 10 cpu := by
  have htext : 'c' ∉ Nat.toDigits 10 cpu ++ countersText values := by
    intro h
    rcases List.mem_append.mp h with h | h
    · exact absurd (isDigit_of_mem_toDigits h) (by decide)
    · exact not_mem_countersText values h
  rw [← prefix_toDigits_append j (Nat.toDigits 10 cpu) (noDigitHead_countersText values)]
  exact cpuName_infix_iff j htext

theorem not_cpuName_infix_summaryLine (j : Nat) (values : List Nat) :
    ¬ cpuName j <:+: summaryLine values := by
  have htext : 'c' ∉ ' ' :: countersText values := by
    intro h
    rcases List.mem_cons.mp h with h | h
    · cases h
    · exact not_mem_countersText values h
  intro h
  have hbegins := (cpuName_infix_iff j htext).mp h
  cases hdigits : Nat.toDigits 10 j with
  | nil => exact Nat.toDigits_ne_nil hdigits
  | cons d digits =>
    have hdigit := isDigit_of_mem_toDigits (hdigits ▸ List.mem_cons_self : d ∈ Nat.toDigits 10 j)
    rw [hdigits, List.cons_prefix_cons] at hbegins
    rw [hbegins.1] at hdigit
    cases hdigit

/-! ## The two loops -/

variable {rt : Nat} {stat : List Line}

/-- The `j`-th line that is kept has the counter at that time in it. -/
theorem infix_of_coreStatLines : ∀ {lines : List Line} {counter j : Nat} {line : Line},
    (coreStatLines rt counter lines)[j]? = some line → cpuName (counter + j) <:+: line
  | [], _, _, _, h => by cases h
  | l :: lines, counter, j, line, h => by
    rw [coreStatLines] at h
    by_cases hname : cpuName counter <:+: l
    · rw [if_pos hname] at h
      cases j with
      | zero =>
        cases h
        exact hname
      | succ j =>
        rw [List.getElem?_cons_succ] at h
        by_cases hend : rt ≤ counter + 1
        · rw [if_pos hend] at h
          cases h
        · rw [if_neg hend] at h
          have hrest := infix_of_coreStatLines h
          rwa [Nat.add_assoc, Nat.add_comm 1 j] at hrest
    · rw [if_neg hname] at h
      by_cases hend : rt ≤ counter
      · rw [if_pos hend] at h
        cases h
      · rw [if_neg hend] at h
        exact infix_of_coreStatLines h

/-- Lines that all have their counter are all kept, and no line behind them is read. -/
theorem coreStatLines_of_found (others : List Line) : ∀ {lines : List Line} {counter : Nat},
    lines ≠ [] → counter + lines.length = rt →
    (∀ j line, lines[j]? = some line → cpuName (counter + j) <:+: line) →
    coreStatLines rt counter (lines ++ others) = lines
  | [], _, hne, _, _ => absurd rfl hne
  | l :: lines, counter, _, hlength, hall => by
    have hname : cpuName counter <:+: l := hall 0 l rfl
    rw [List.cons_append, coreStatLines, if_pos hname]
    rw [List.length_cons] at hlength
    cases hlines : lines with
    | nil =>
      subst hlines
      rw [if_pos (by rw [← hlength]; exact le_rfl)]
    | cons l' lines' =>
      have hpos : 0 < lines.length := by rw [hlines]; exact Nat.succ_pos _
      rw [if_neg (by omega), ← hlines]
      refine congrArg _ (coreStatLines_of_found others (by rw [hlines]; exact List.cons_ne_nil _ _)
        (by omega) fun j line hline => ?_)
      rw [Nat.add_assoc, Nat.add_comm 1 j]
      exact hall (j + 1) line hline

/-- The lines of a block are collected. -/
theorem readCores_block (idx : Nat) (lines : List Line) : ∀ (block oneCoreInfo : List Line),
    (∀ line ∈ block, line ≠ []) → readCores stat idx oneCoreInfo (block ++ lines) =
      readCores stat idx (oneCoreInfo ++ block) lines
  | [], oneCoreInfo, _ => by rw [List.nil_append, List.append_nil]
  | line :: block, oneCoreInfo, hne => by
    rw [List.cons_append, readCores, if_neg (hne line List.mem_cons_self),
      readCores_block idx lines block _ fun l hl => hne l (List.mem_cons_of_mem _ hl),
      List.append_assoc, List.singleton_append]

/-- **With enough lines every block gets the load of the line at its place.** -/
theorem readCores_spec : ∀ (blocks : List (List Line)) (idx : Nat),
    (∀ block ∈ blocks, ∀ line ∈ block, line ≠ []) → idx + blocks.length ≤ stat.length →
    readCores stat idx [] (cpuinfoText blocks) ≠ .error .coreStatLines ∧
    ∀ cores, readCores stat idx [] (cpuinfoText blocks) = .ok cores →
      cores.length = blocks.length ∧
        ∀ (j : Nat) (core : SCoretatus) (line : Line), cores[j]? = some core →
        stat[idx + j]? = some line → core.index = idx + j ∧ getCoreLoad line = .ok core.loadPercent
  | [], idx, _, _ => by
    refine ⟨fun h => (by cases h), fun cores h => ?_⟩
    cases h
    exact ⟨rfl, fun j core line hcore => by cases hcore⟩
  | block :: blocks, idx, hne, hlength => by
    rw [List.length_cons] at hlength
    obtain ⟨hfault, hcores⟩ := readCores_spec blocks (idx + 1)
      (fun b hb => hne b (List.mem_cons_of_mem _ hb)) (by omega)
    have htext : cpuinfoText (block :: blocks) = block ++ [] :: cpuinfoText blocks := by
      rw [cpuinfoText, List.flatMap_cons, List.append_assoc]
      rfl
    have hget : stat[idx]? = some stat[idx] := List.getElem?_eq_getElem (by omega)
    rw [htext, readCores_block idx _ block [] (hne block List.mem_cons_self), readCores,
      if_pos rfl, hget]
    simp only [List.nil_append]
    cases hload : getCoreLoad stat[idx] with
    | error fault => exact ⟨fun h => (by cases h), fun cores h => (by cases h)⟩
    | ok loadPercent =>
      cases hrest : readCores stat (idx + 1) [] (cpuinfoText blocks) with
      | error fault =>
        refine ⟨fun h => ?_, fun cores h => (by cases h)⟩
        cases h
        exact hfault hrest
      | ok rest =>
        obtain ⟨hlen, hline⟩ := hcores rest hrest
        refine ⟨fun h => (by cases h), fun cores h => ?_⟩
        cases h
        refine ⟨congrArg (· + 1) hlen, fun j core line hcore hstat => ?_⟩
        cases j with
        | zero =>
          rw [Nat.add_zero, hget] at hstat
          cases hcore
          cases hstat
          exact ⟨rfl, hload⟩
        | succ j =>
          rw [Nat.add_comm j 1, ← Nat.add_assoc] at hstat ⊢
          exact hline j core line hcore hstat

/-! ## Cores that are online -/

/-- The cores that are online, with their counters, and what else the two files hold. -/
structure OnlineCpus where
  summary : List Nat
  cores : List (Nat × List Nat)
  ascending : (cores.map Prod.fst).Pairwise (· < ·)
  others : List Line
  blocks : List (List Line)
  lines_ne : ∀ block ∈ blocks, ∀ line ∈ block, line ≠ []
  length_eq : blocks.length = cores.length

namespace OnlineCpus

variable (o : OnlineCpus)

/-- The lines of the cores. -/
def lines : List Line := o.cores.map fun core => coreLine core.1 core.2

def files : ProcFiles where
  cpuinfo := some (cpuinfoText o.blocks)
  stat := some (summaryLine o.summary :: (o.lines ++ o.others))
  nprocs := o.cores.length

/-- The lines are those of the cores, and the load of each core is taken from its line. -/
structure OwnLines : Prop where
  lines : getCoreStatLines o.files = o.lines
  inRange : ∀ last cpu, getCPUStatus last o.files cpu ≠ .error .coreStatLines
  loads : ∀ last cpu status last', getCPUStatus last o.files cpu = .ok (status, last') →
    status.cores.length = o.cores.length ∧
    ∀ (j : Nat) (core : SCoretatus) (line : Line), status.cores[j]? = some core →
      o.lines[j]? = some line → core.index = j ∧ getCoreLoad line = .ok core.loadPercent

/-- The number of every core begins with the digits of its place. -/
def PositionsMatch : Prop :=
  ∀ j cpu, (o.cores.map Prod.fst)[j]? = some cpu → Nat.toDigits 10 j <+: Nat.toDigits 10 cpu

variable {o}

theorem getElem?_lines {j : Nat} {line : Line} : o.lines[j]? = some line ↔
    ∃ core, o.cores[j]? = some core ∧ coreLine core.1 core.2 = line := by
  rw [lines, List.getElem?_map, Option.map_eq_some_iff]

/-- The places match exactly when every line has its counter. -/
theorem positionsMatch_iff :
    o.PositionsMatch ↔ ∀ j line, o.lines[j]? = some line → cpuName j <:+: line := by
  constructor
  · intro h j line hline
    obtain ⟨core, hcore, rfl⟩ := getElem?_lines.mp hline
    refine (cpuName_infix_coreLine j core.1 core.2).mpr (h j core.1 ?_)
    rw [List.getElem?_map, hcore, Option.map_some]
  · intro h j cpu hcpu
    rw [List.getElem?_map, Option.map_eq_some_iff] at hcpu
    obtain ⟨core, hcore, rfl⟩ := hcpu
    exact (cpuName_infix_coreLine j core.1 core.2).mp
      (h j _ (getElem?_lines.mpr ⟨core, hcore, rfl⟩))

/-- **The lines found are those of the cores exactly when the places match.** -/
theorem getCoreStatLines_eq_iff : getCoreStatLines o.files = o.lines ↔ o.PositionsMatch := by
  have hskip : getCoreStatLines o.files =
      if o.cores.length ≤ 0 then [] else coreStatLines o.cores.length 0 (o.lines ++ o.others) :=
    if_neg (not_cpuName_infix_summaryLine 0 o.summary)
  rw [positionsMatch_iff]
  constructor
  · intro h j line hline
    rw [← h] at hline
    have hcounter : cpuName (0 + j) <:+: line := infix_of_coreStatLines hline
    rwa [Nat.zero_add] at hcounter
  · intro h
    rw [hskip]
    cases hcores : o.cores with
    | nil =>
      rw [lines, hcores]
      rfl
    | cons core cores =>
      have hlength : 0 + o.lines.length = o.cores.length := by
        rw [lines, List.length_map, Nat.zero_add]
      have hne : o.lines ≠ [] := by
        rw [lines, hcores]
        exact List.cons_ne_nil _ _
      rw [← hcores, if_neg (by rw [hcores]; exact Nat.not_succ_le_zero _)]
      refine coreStatLines_of_found o.others hne hlength fun j line hline => ?_
      rw [Nat.zero_add]
      exact h j line hline

variable (o) in
/--
**When every core gets its own line.**

The search finds the lines of the cores, and no other ones, exactly when the number of the `j`-th
core begins with the decimal digits of `j`.
-/
theorem core_stat_lines_iff : o.OwnLines ↔ o.PositionsMatch := by
  refine ⟨fun h => getCoreStatLines_eq_iff.mp h.lines, fun h => ?_⟩
  have hlines := getCoreStatLines_eq_iff.mpr h
  have hlength : 0 + o.blocks.length ≤ (getCoreStatLines o.files).length := by
    rw [hlines, lines, List.length_map, o.length_eq, Nat.zero_add]
  obtain ⟨hfault, hcores⟩ := readCores_spec o.blocks 0 o.lines_ne hlength
  have hopen : o.files.cpuinfo = some (cpuinfoText o.blocks) := rfl
  cases hread : readCores (getCoreStatLines o.files) 0 [] (cpuinfoText o.blocks) with
  | error fault =>
    refine ⟨hlines, fun last cpu heq => ?_, fun last cpu status last' hstatus => ?_⟩
    · rw [getCPUStatus_of_open hopen, hread] at heq
      cases heq
      exact hfault hread
    · rw [getCPUStatus_of_open hopen, hread] at hstatus
      cases hstatus
  | ok cores =>
    refine ⟨hlines, fun last cpu heq => ?_, fun last cpu status last' hstatus => ?_⟩
    · rw [getCPUStatus_of_open hopen, hread] at heq
      cases heq
    · rw [getCPUStatus_of_open hopen, hread] at hstatus
      cases hstatus
      obtain ⟨hlen, hload⟩ := hcores cores hread
      refine ⟨hlen.trans o.length_eq, fun j core line hcore hline => ?_⟩
      have hspec := hload j core line hcore (by rw [Nat.zero_add, hlines]; exact hline)
      rwa [Nat.zero_add] at hspec

/-- Without a core that is offline the numbers are the places. -/
theorem positionsMatch_of_all_online (h : o.cores.map Prod.fst = List.range o.cores.length) :
    o.PositionsMatch := by
  intro j cpu hcpu
  rw [h] at hcpu
  obtain ⟨hj, heq⟩ := List.getElem?_eq_some_iff.mp hcpu
  rw [List.getElem_range] at heq
  rw [heq]

/-- Two cores, and one between them that is offline. -/
def coreOneOffline : OnlineCpus where
  summary := [2, 2, 2, 2]
  cores := [(0, [1, 1, 1, 1]), (2, [1, 1, 1, 1])]
  ascending := by decide
  others := []
  blocks := [["processor : 0".toList], ["processor : 2".toList]]
  lines_ne := by decide
  length_eq := rfl

/-- The line of the second core has no `cpu1`. -/
theorem own_line_not_found : ¬ coreOneOffline.OwnLines := by
  intro h
  have hmatch := getCoreStatLines_eq_iff.mp h.lines
  exact absurd (hmatch 1 2 rfl) (by decide)

end OnlineCpus

end MicroserviceCommon.SystemMonitor
