import Mathlib.Order.Bounds.Basic
import Mathlib.Order.MinMax
import MicroserviceCommon.Infra.Collection

/-!
# Aggregation pipelines

`$group` with `$max`, and `$sort`, over records of any type with keys and values in linear orders.

A program that scans the sorted groups to one end keeps one row of them. That row is described
without the pipeline, by the least or the greatest key and by the greatest value under it.

* `getLast?_orderAsc_groupMax` — the last row of an ascending scan
* `getLast?_orderDesc_groupMax` — the last row of a descending scan
* `head?_orderAsc_groupMax` — the first row of an ascending scan, which is the same

The fixed-width integers are linear orders, so the pipelines run on them.
-/

namespace Infra

/-! ## The fixed-width integers -/

instance linearOrderInt32 : LinearOrder Int32 where
  le_refl := Int32.le_refl
  le_trans _ _ _ := Int32.le_trans
  lt_iff_le_not_ge a b := by
    rw [Int32.lt_iff_toInt_lt, Int32.le_iff_toInt_le, Int32.le_iff_toInt_le]
    omega
  le_antisymm _ _ := Int32.le_antisymm
  le_total := Int32.le_total
  toDecidableLE := inferInstance
  toDecidableLT := inferInstance
  toDecidableEq := inferInstance

instance linearOrderInt64 : LinearOrder Int64 where
  le_refl := Int64.le_refl
  le_trans _ _ _ := Int64.le_trans
  lt_iff_le_not_ge a b := by
    rw [Int64.lt_iff_toInt_lt, Int64.le_iff_toInt_le, Int64.le_iff_toInt_le]
    omega
  le_antisymm _ _ := Int64.le_antisymm
  le_total := Int64.le_total
  toDecidableLE := inferInstance
  toDecidableLT := inferInstance
  toDecidableEq := inferInstance

namespace Collection

variable {α κ τ : Type*} [LinearOrder κ] [LinearOrder τ] {key : α → κ} {val : α → τ} {c : List α}

/-! ## Operations -/

/-- `$sort` with `1`. Records of one key stay in their order. -/
def orderAsc (key : α → κ) (c : List α) : List α :=
  c.insertionSort fun a b => key a ≤ key b

/-- The greatest value among the records of a key. -/
def maxOf (key : α → κ) (val : α → τ) (c : List α) (k : κ) : Option τ :=
  ((c.filter fun d => key d = k).map val).max?

/-- `$group` by a key with the `$max` of a value. The order of the groups is open. -/
def groupMax (key : α → κ) (val : α → τ) (c : List α) : List (κ × τ) :=
  (c.map key).dedup.filterMap fun k => (maxOf key val c k).map (k, ·)

/-! ## Sorting -/

instance total_le (key : α → κ) : Std.Total fun a b => key a ≤ key b :=
  ⟨fun a b => le_total (key a) (key b)⟩

instance isTrans_le (key : α → κ) : IsTrans α fun a b => key a ≤ key b :=
  ⟨fun _ _ _ => le_trans⟩

instance total_ge (key : α → κ) : Std.Total fun a b => key b ≤ key a :=
  ⟨fun a b => le_total (key b) (key a)⟩

instance isTrans_ge (key : α → κ) : IsTrans α fun a b => key b ≤ key a :=
  ⟨fun _ _ _ h h' => le_trans h' h⟩

theorem perm_orderAsc (key : α → κ) (c : List α) : (orderAsc key c).Perm c :=
  List.perm_insertionSort _ c

theorem mem_orderAsc (key : α → κ) {d : α} : d ∈ orderAsc key c ↔ d ∈ c :=
  List.mem_insertionSort _

theorem mem_orderDesc (key : α → κ) {d : α} : d ∈ orderDesc key c ↔ d ∈ c :=
  List.mem_insertionSort _

theorem orderAsc_ne_nil (key : α → κ) (h : c ≠ []) : orderAsc key c ≠ [] := by
  obtain ⟨d, hd⟩ := List.exists_mem_of_ne_nil c h
  exact List.ne_nil_of_mem ((mem_orderAsc key).mpr hd)

theorem orderDesc_ne_nil (key : α → κ) (h : c ≠ []) : orderDesc key c ≠ [] := by
  obtain ⟨d, hd⟩ := List.exists_mem_of_ne_nil c h
  exact List.ne_nil_of_mem ((mem_orderDesc key).mpr hd)

theorem pairwise_orderAsc (key : α → κ) (c : List α) :
    (orderAsc key c).Pairwise fun a b => key a ≤ key b :=
  List.pairwise_insertionSort _ c

theorem getLast?_orderAsc {key : α → κ} {d : α} (h : (orderAsc key c).getLast? = some d) :
    d ∈ c ∧ ∀ e ∈ c, key e ≤ key d := by
  have hsort := pairwise_orderAsc key c
  obtain ⟨front, hfront⟩ := List.getLast?_eq_some_iff.mp h
  rw [hfront, List.pairwise_append] at hsort
  refine ⟨(mem_orderAsc key).mp (List.mem_of_getLast? h), fun e he => ?_⟩
  rw [← mem_orderAsc key, hfront, List.mem_append] at he
  rcases he with he | he
  · exact hsort.2.2 e he d List.mem_cons_self
  · rw [List.mem_singleton.mp he]

theorem head?_orderAsc {d : α} (h : (orderAsc key c).head? = some d) :
    d ∈ c ∧ ∀ e ∈ c, key d ≤ key e := by
  have hsort := pairwise_orderAsc key c
  obtain ⟨tail, htail⟩ := List.head?_eq_some_iff.mp h
  rw [htail, List.pairwise_cons] at hsort
  refine ⟨(mem_orderAsc key).mp (List.mem_of_head? h), fun e he => ?_⟩
  rw [← mem_orderAsc key, htail, List.mem_cons] at he
  rcases he with rfl | he
  · exact le_refl _
  · exact hsort.1 e he

theorem getLast?_orderDesc {d : α} (h : (orderDesc key c).getLast? = some d) :
    d ∈ c ∧ ∀ e ∈ c, key d ≤ key e :=
  have horder : (orderAsc (fun e => OrderDual.toDual (key e)) c).getLast? = some d := h
  getLast?_orderAsc horder

/-- **A sort by a key without repetitions**: the least record first, then the greater ones. -/
theorem orderAsc_eq_cons {d : α} (hnodup : (c.map key).Nodup) (hd : d ∈ c)
    (hle : ∀ e ∈ c, key d ≤ key e) :
    ∃ rest, orderAsc key c = d :: rest ∧ (∀ e, e ∈ rest ↔ e ∈ c ∧ key d < key e) ∧
      (rest.map key).Nodup := by
  have hall : ∀ e, e ∈ orderAsc key c ↔ e ∈ c := fun _ => mem_orderAsc key
  have hsort := pairwise_orderAsc key c
  have hsorted : ((orderAsc key c).map key).Nodup := by
    rw [((perm_orderAsc key c).map key).nodup_iff]
    exact hnodup
  generalize orderAsc key c = sorted at hall hsort hsorted ⊢
  cases sorted with
  | nil => exact absurd ((hall d).mpr hd) List.not_mem_nil
  | cons first rest =>
    rw [List.pairwise_cons] at hsort
    rw [List.map_cons, List.nodup_cons] at hsorted
    have hfirst : first ∈ c := (hall first).mp List.mem_cons_self
    have hfirst_eq : d = first := by
      rcases List.mem_cons.mp ((hall d).mpr hd) with he | hin
      · exact he
      · have hkey := le_antisymm (hle first hfirst) (hsort.1 d hin)
        exact List.inj_on_of_nodup_map hnodup hd hfirst hkey
    subst hfirst_eq
    refine ⟨rest, rfl, fun e => ?_, hsorted.2⟩
    constructor
    · intro he
      have hec := (hall e).mp (List.mem_cons_of_mem d he)
      refine ⟨hec, lt_of_le_of_ne (hle e hec) fun hkey => hsorted.1 ?_⟩
      rw [hkey]
      exact List.mem_map_of_mem he
    · rintro ⟨he, hlt⟩
      rcases List.mem_cons.mp ((hall e).mpr he) with rfl | hin
      · exact absurd hlt (lt_irrefl _)
      · exact hin

/-- Greater keys can be appended to the rows that a `put` of the greatest key leaves. -/
theorem nodup_put_append {new : α} {rest : List α} (hc : (c.map key).Nodup)
    (hrest : (rest.map key).Nodup) (hle : ∀ d ∈ c, key d ≤ key new)
    (hlt : ∀ d ∈ rest, key new < key d) : ((put key new c ++ rest).map key).Nodup := by
  rw [List.map_append, List.nodup_append]
  refine ⟨nodup_put hc, hrest, fun a ha b hb hab => ?_⟩
  obtain ⟨d, hd, rfl⟩ := List.mem_map.mp ha
  obtain ⟨e, he, rfl⟩ := List.mem_map.mp hb
  have hd_le : key d ≤ key new := by
    rcases (mem_put hc d).mp hd with rfl | ⟨hd, _⟩
    · exact le_refl _
    · exact hle d hd
  exact absurd (hab ▸ hlt e he) (not_lt.mpr hd_le)

/-! ## Groups -/

theorem maxOf_eq_some {k : κ} {t : τ} :
    maxOf key val c k = some t ↔ IsGreatest (val '' {d | d ∈ c ∧ key d = k}) t := by
  rw [maxOf, List.max?_eq_some_iff]
  simp [IsGreatest, upperBounds, and_assoc]

theorem exists_maxOf (key : α → κ) (val : α → τ) {d : α} (h : d ∈ c) :
    ∃ t, maxOf key val c (key d) = some t := by
  refine Option.ne_none_iff_exists'.mp fun hnone => ?_
  have hempty := List.map_eq_nil_iff.mp (List.max?_eq_none_iff.mp hnone)
  exact List.filter_eq_nil_iff.mp hempty d h (by simp)

theorem mem_groupMax {k : κ} {t : τ} :
    (k, t) ∈ groupMax key val c ↔ IsGreatest (val '' {d | d ∈ c ∧ key d = k}) t := by
  rw [← maxOf_eq_some, groupMax, List.mem_filterMap]
  constructor
  · rintro ⟨k', _, hk'⟩
    obtain ⟨t', ht', heq⟩ := Option.map_eq_some_iff.mp hk'
    cases heq
    exact ht'
  · intro h
    obtain ⟨d, ⟨hd, rfl⟩, _⟩ := (maxOf_eq_some.mp h).1
    exact ⟨key d, List.mem_dedup.mpr (List.mem_map_of_mem hd), by rw [h, Option.map_some]⟩

/-- Every key has a group. -/
theorem exists_mem_groupMax (key : α → κ) (val : α → τ) {d : α} (h : d ∈ c) :
    ∃ t, (key d, t) ∈ groupMax key val c := by
  obtain ⟨t, ht⟩ := exists_maxOf key val h
  exact ⟨t, mem_groupMax.mpr (maxOf_eq_some.mp ht)⟩

/-- A group has the key of some record. -/
theorem exists_key_eq {k : κ} {t : τ} (h : (k, t) ∈ groupMax key val c) : ∃ d ∈ c, key d = k := by
  obtain ⟨d, ⟨hd, hk⟩, _⟩ := (mem_groupMax.mp h).1
  exact ⟨d, hd, hk⟩

theorem groupMax_ne_nil (key : α → κ) (val : α → τ) (h : c ≠ []) : groupMax key val c ≠ [] := by
  obtain ⟨d, hd⟩ := List.exists_mem_of_ne_nil c h
  obtain ⟨t, ht⟩ := exists_mem_groupMax key val hd
  exact List.ne_nil_of_mem ht

theorem groupMax_map {β : Type*} (enc : β → α) (l : List β) :
    groupMax key val (l.map enc) = groupMax (fun b => key (enc b)) (fun b => val (enc b)) l := by
  simp only [groupMax, maxOf, List.map_map, List.filter_map, Function.comp_def]

/-- A loop that overwrites what it kept ends with the last element. -/
theorem foldl_overwrite {β : Type*} {f : β → α → β} (hf : ∀ b x y, f (f b x) y = f b y) :
    ∀ (l : List α) (b : β), l.foldl f b = l.getLast?.elim b (f b)
  | [], _ => rfl
  | [_], _ => rfl
  | x :: y :: l, b => by
    rw [List.foldl_cons, foldl_overwrite hf (y :: l), List.getLast?_cons_cons,
      List.getLast?_eq_some_getLast (List.cons_ne_nil y l), Option.elim_some, Option.elim_some, hf]

/-! ## The ends of the sorted groups -/

/-- The group of the least key. -/
def IsFirstGroup (key : α → κ) (val : α → τ) (c : List α) (g : κ × τ) : Prop :=
  IsLeast (key '' {d | d ∈ c}) g.1 ∧ IsGreatest (val '' {d | d ∈ c ∧ key d = g.1}) g.2

/-- The group of the greatest key. -/
def IsLastGroup (key : α → κ) (val : α → τ) (c : List α) (g : κ × τ) : Prop :=
  IsGreatest (key '' {d | d ∈ c}) g.1 ∧ IsGreatest (val '' {d | d ∈ c ∧ key d = g.1}) g.2

theorem IsFirstGroup.unique {g g' : κ × τ} (h : IsFirstGroup key val c g)
    (h' : IsFirstGroup key val c g') : g = g' := by
  have hk : g.1 = g'.1 := h.1.unique h'.1
  refine Prod.ext hk (h.2.unique ?_)
  rw [hk]
  exact h'.2

theorem IsLastGroup.unique {g g' : κ × τ} (h : IsLastGroup key val c g)
    (h' : IsLastGroup key val c g') : g = g' := by
  have hk : g.1 = g'.1 := h.1.unique h'.1
  refine Prod.ext hk (h.2.unique ?_)
  rw [hk]
  exact h'.2

theorem isFirstGroup_of_le {g : κ × τ} (hmem : g ∈ groupMax key val c)
    (hle : ∀ e ∈ groupMax key val c, g.1 ≤ e.1) : IsFirstGroup key val c g := by
  obtain ⟨d, hd, hk⟩ := exists_key_eq hmem
  refine ⟨⟨⟨d, hd, hk⟩, ?_⟩, mem_groupMax.mp hmem⟩
  rintro _ ⟨e, he, rfl⟩
  obtain ⟨t, ht⟩ := exists_mem_groupMax key val he
  exact hle _ ht

theorem isLastGroup_of_le {g : κ × τ} (hmem : g ∈ groupMax key val c)
    (hle : ∀ e ∈ groupMax key val c, e.1 ≤ g.1) : IsLastGroup key val c g := by
  obtain ⟨d, hd, hk⟩ := exists_key_eq hmem
  refine ⟨⟨⟨d, hd, hk⟩, ?_⟩, mem_groupMax.mp hmem⟩
  rintro _ ⟨e, he, rfl⟩
  obtain ⟨t, ht⟩ := exists_mem_groupMax key val he
  exact hle _ ht

/-- The first group carries the least value when its records do not differ from the least. -/
theorem IsFirstGroup.isLeast_iff {g : κ × τ} (h : IsFirstGroup key val c g) :
    IsLeast (val '' {d | d ∈ c}) g.2 ↔
      ∀ d ∈ c, (∀ e ∈ c, key d ≤ key e) → ∀ e ∈ c, val d ≤ val e := by
  obtain ⟨⟨hkmem, hkle⟩, ⟨hvmem, hvle⟩⟩ := h
  constructor
  · rintro ⟨_, hleast⟩ d hd hmin e he
    obtain ⟨d₀, hd₀, hk₀⟩ := hkmem
    have hkey : key d = g.1 := le_antisymm (hk₀ ▸ hmin d₀ hd₀) (hkle ⟨d, hd, rfl⟩)
    exact le_trans (hvle ⟨d, ⟨hd, hkey⟩, rfl⟩) (hleast ⟨e, he, rfl⟩)
  · intro hfirst
    obtain ⟨d, ⟨hd, hkey⟩, hval⟩ := hvmem
    refine ⟨⟨d, hd, hval⟩, ?_⟩
    rintro _ ⟨e, he, rfl⟩
    rw [← hval]
    refine hfirst d hd (fun x hx => ?_) e he
    rw [hkey]
    exact hkle ⟨x, hx, rfl⟩

/-- The last group carries the greatest value when one of its records has it. -/
theorem IsLastGroup.isGreatest_iff {g : κ × τ} (h : IsLastGroup key val c g) :
    IsGreatest (val '' {d | d ∈ c}) g.2 ↔
      ∃ d ∈ c, ∀ e ∈ c, key e ≤ key d ∧ val e ≤ val d := by
  obtain ⟨⟨hkmem, hkle⟩, ⟨hvmem, hvle⟩⟩ := h
  constructor
  · rintro ⟨_, hgreatest⟩
    obtain ⟨d, ⟨hd, hkey⟩, hval⟩ := hvmem
    refine ⟨d, hd, fun e he => ⟨?_, ?_⟩⟩
    · rw [hkey]
      exact hkle ⟨e, he, rfl⟩
    · rw [hval]
      exact hgreatest ⟨e, he, rfl⟩
  · rintro ⟨d, hd, hmax⟩
    obtain ⟨d₀, hd₀, hk₀⟩ := hkmem
    have hkey : key d = g.1 := le_antisymm (hkle ⟨d, hd, rfl⟩) (hk₀ ▸ (hmax d₀ hd₀).1)
    obtain ⟨d₁, ⟨hd₁, _⟩, hval⟩ := hvmem
    refine ⟨⟨d₁, hd₁, hval⟩, ?_⟩
    rintro _ ⟨e, he, rfl⟩
    exact le_trans (hmax e he).2 (hvle ⟨d, ⟨hd, hkey⟩, rfl⟩)

/-! ## Appended records -/

section Append

variable {b : List α} {g g' : κ × τ}

/-- The least key stays when no appended record is below it. -/
theorem isLeast_append {ι : Type*} [PartialOrder ι] {key : α → ι} {k k' : ι}
    (h : IsLeast (key '' {d | d ∈ c}) k) (h' : IsLeast (key '' {d | d ∈ c ++ b}) k') :
    k' = k ↔ ∀ d ∈ b, k ≤ key d := by
  constructor
  · rintro rfl d hd
    exact h'.2 ⟨d, List.mem_append_right _ hd, rfl⟩
  · intro hb
    obtain ⟨d, hd, hk⟩ := h.1
    obtain ⟨e, he, hk'⟩ := h'.1
    refine le_antisymm (h'.2 ⟨d, List.mem_append_left _ hd, hk⟩) ?_
    rw [← hk']
    rcases List.mem_append.mp he with he | he
    · exact h.2 ⟨e, he, rfl⟩
    · exact hb e he

theorem IsFirstGroup.key_append (h : IsFirstGroup key val c g)
    (h' : IsFirstGroup key val (c ++ b) g') : g'.1 = g.1 ↔ ∀ d ∈ b, g.1 ≤ key d :=
  isLeast_append h.1 h'.1

/-- The greatest key is the least one of the dual order. -/
theorem IsLastGroup.key_append (h : IsLastGroup key val c g)
    (h' : IsLastGroup key val (c ++ b) g') : g'.1 = g.1 ↔ ∀ d ∈ b, key d ≤ g.1 :=
  isLeast_append (ι := κᵒᵈ) h.1 h'.1

/-- The greatest value of a key stays when no appended record is above it. -/
theorem isGreatest_append {ι : Type*} {key : α → ι} {k : ι} {t : τ}
    (h : IsGreatest (val '' {d | d ∈ c ∧ key d = k}) t) :
    IsGreatest (val '' {d | d ∈ c ++ b ∧ key d = k}) t ↔ ∀ d ∈ b, key d = k → val d ≤ t := by
  constructor
  · intro h' d hd hk
    exact h'.2 ⟨d, ⟨List.mem_append_right _ hd, hk⟩, rfl⟩
  · intro hb
    obtain ⟨d, ⟨hd, hk⟩, hval⟩ := h.1
    refine ⟨⟨d, ⟨List.mem_append_left _ hd, hk⟩, hval⟩, ?_⟩
    rintro _ ⟨e, ⟨he, hk'⟩, rfl⟩
    rcases List.mem_append.mp he with he | he
    · exact h.2 ⟨e, ⟨he, hk'⟩, rfl⟩
    · exact hb e he hk'

/-- A group stays when its key and the greatest value of the key do. -/
theorem group_eq_iff {ι : Type*} {key : α → ι} {g g' : ι × τ}
    (h' : IsGreatest (val '' {d | d ∈ c ++ b ∧ key d = g'.1}) g'.2) :
    g' = g ↔ g'.1 = g.1 ∧ IsGreatest (val '' {d | d ∈ c ++ b ∧ key d = g.1}) g.2 := by
  constructor
  · rintro rfl
    exact ⟨rfl, h'⟩
  · rintro ⟨hk, hval⟩
    refine Prod.ext hk (IsGreatest.unique ?_ hval)
    rw [← hk]
    exact h'

/-- **The first group stays exactly when no appended record is below its key or above its
value.** -/
theorem IsFirstGroup.append_iff (h : IsFirstGroup key val c g)
    (h' : IsFirstGroup key val (c ++ b) g') :
    g' = g ↔ (∀ d ∈ b, g.1 ≤ key d) ∧ ∀ d ∈ b, key d = g.1 → val d ≤ g.2 := by
  rw [← h.key_append h', ← isGreatest_append h.2]
  exact group_eq_iff h'.2

theorem IsLastGroup.append_iff (h : IsLastGroup key val c g)
    (h' : IsLastGroup key val (c ++ b) g') :
    g' = g ↔ (∀ d ∈ b, key d ≤ g.1) ∧ ∀ d ∈ b, key d = g.1 → val d ≤ g.2 := by
  rw [← h.key_append h', ← isGreatest_append h.2]
  exact group_eq_iff h'.2

end Append

/-! ## The ends of a scan -/

/-- **An ascending scan ends at the last group.** -/
theorem getLast?_orderAsc_groupMax (key : α → κ) (val : α → τ) (h : c ≠ []) :
    ∃ g, (orderAsc Prod.fst (groupMax key val c)).getLast? = some g ∧
      IsLastGroup key val c g := by
  have hlast :=
    List.getLast?_eq_some_getLast (orderAsc_ne_nil Prod.fst (groupMax_ne_nil key val h))
  obtain ⟨hmem, hle⟩ := getLast?_orderAsc hlast
  exact ⟨_, hlast, isLastGroup_of_le hmem hle⟩

/-- **A descending scan ends at the first group.** -/
theorem getLast?_orderDesc_groupMax (key : α → κ) (val : α → τ) (h : c ≠ []) :
    ∃ g, (orderDesc Prod.fst (groupMax key val c)).getLast? = some g ∧
      IsFirstGroup key val c g := by
  have hlast :=
    List.getLast?_eq_some_getLast (orderDesc_ne_nil Prod.fst (groupMax_ne_nil key val h))
  obtain ⟨hmem, hle⟩ := getLast?_orderDesc hlast
  exact ⟨_, hlast, isFirstGroup_of_le hmem hle⟩

/-- **An ascending scan begins at the first group.** -/
theorem head?_orderAsc_groupMax (key : α → κ) (val : α → τ) (h : c ≠ []) :
    ∃ g, (orderAsc Prod.fst (groupMax key val c)).head? = some g ∧
      IsFirstGroup key val c g := by
  have hhead := List.head?_eq_some_head (orderAsc_ne_nil Prod.fst (groupMax_ne_nil key val h))
  obtain ⟨hmem, hle⟩ := head?_orderAsc hhead
  exact ⟨_, hhead, isFirstGroup_of_le hmem hle⟩

end Collection

end Infra
