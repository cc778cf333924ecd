import Mathlib.Algebra.Group.Basic
import Mathlib.Algebra.Ring.Int.Defs
import MicroserviceCommon.System.LibraryLoader

/-!
# The handles of the libraries do not balance

A second `load` of a name opens the library again, and the map does not take the new handle. The
name in the descriptor is never set, and the destructor closes nothing.

* `balanced_iff` — the handles balance exactly when no library is loaded again and none is left for
  the destructor
* `library_handles_iff` — the names are listed too exactly when the loaded libraries have no name
* `loaded_library_not_listed` — one library
-/

namespace MicroserviceCommon

open Infra

/-! ## The map -/

namespace LibraryLoader

variable {l : LibraryLoader} {name : String}

theorem mem_contained : name ∈ l.contained ↔ ∃ entry ∈ l.librariesDescrByName, entry.1 = name :=
  List.mem_map

theorem isSome_find : (l.find name).isSome ↔ name ∈ l.contained := by
  rw [find, List.lookup_isSome_iff, mem_contained]
  simp only [beq_iff_eq, @eq_comm _ name]

theorem mem_contained_insert {descr : SLibraryDescr} {j : String} :
    j ∈ (l.insert name descr).contained ↔ j = name ∨ j ∈ l.contained := by
  unfold insert
  split
  · next hmem => exact ⟨Or.inr, fun h => h.elim (fun hj => hj ▸ hmem) id⟩
  · rw [contained, ((List.perm_orderedInsert _ _ _).map Prod.fst).mem_iff, List.map_cons,
      List.mem_cons]
    exact Iff.rfl

/-- The new library, or one that was there. -/
theorem mem_insert {descr : SLibraryDescr} {entry : String × SLibraryDescr}
    (h : entry ∈ (l.insert name descr).librariesDescrByName) :
    entry = (name, descr) ∨ entry ∈ l.librariesDescrByName := by
  unfold insert at h
  split at h
  · exact Or.inr h
  · exact List.mem_cons.mp ((List.perm_orderedInsert _ _ _).mem_iff.mp h)

theorem mem_contained_erase {j : String} :
    j ∈ (l.erase name).contained ↔ j ∈ l.contained ∧ j ≠ name := by
  rw [mem_contained, mem_contained, erase]
  simp only [List.mem_filter, bne_iff_ne]
  constructor
  · rintro ⟨entry, ⟨hmem, hne⟩, rfl⟩
    exact ⟨⟨entry, hmem, rfl⟩, hne⟩
  · rintro ⟨⟨entry, hmem, rfl⟩, hne⟩
    exact ⟨entry, ⟨hmem, hne⟩, rfl⟩

/-- A symbol changes no name. -/
theorem map_addSymbol {α : Type*} (f : String × SLibraryDescr → α) {symbol : String}
    {address : UInt64} (hf : ∀ name descr descr', descr.libName = descr'.libName →
      f (name, descr) = f (name, descr')) :
    (l.addSymbol name symbol address).librariesDescrByName.map f =
      l.librariesDescrByName.map f := by
  rw [addSymbol, List.map_map]
  refine List.map_congr_left fun entry _ => ?_
  show f (if _ then _ else _) = _
  split
  · exact hf _ _ _ rfl
  · rfl

end LibraryLoader

/-! ## One call -/

namespace LibraryRun

variable {s s' : LibraryRun}

/-- Handles that are open. -/
def balance (s : LibraryRun) (name : String) : Int := (s.opened name : Int) - s.closed name

/-- One handle is open for each library that is contained, and none for the others. -/
def Balanced (s : LibraryRun) : Prop :=
  ∀ name, s.balance name = if name ∈ s.loader.contained then 1 else 0

/-- The handles balance, and the names are those of the libraries that are contained. -/
structure HandlesBalance (s : LibraryRun) : Prop where
  balanced : s.Balanced
  names : s.loader.getLoadedLibrariesNames = s.loader.contained

/-- A call of `load` that returns `true`. -/
def Loads (s : LibraryRun) (dlopen : Option UInt64) (dlsym : Nat → Option UInt64) : Prop :=
  dlopen.isSome = true ∧ (s.loader.symbolsOf dlsym).isSome = true

/-- No library is loaded that is there, and none is left at the end. -/
def LoadsOnce (s : LibraryRun) : LibraryAction → Prop
  | .load libFileName dlopen dlsym => s.Loads dlopen dlsym → libFileName ∉ s.loader.contained
  | .destroy => s.loader.contained = []
  | _ => True

/-- No library is loaded that has a name. -/
def LoadsUnnamed (s : LibraryRun) : LibraryAction → Prop
  | .load libFileName dlopen dlsym => s.Loads dlopen dlsym → libFileName = ""
  | _ => True

/-- The names in the descriptors are empty, and so are those of the files. -/
structure Unnamed (s : LibraryRun) : Prop where
  libName : ∀ entry ∈ s.loader.librariesDescrByName, entry.2.libName = ""
  fileName : ∀ name ∈ s.loader.contained, name = ""

theorem Unnamed.names (h : Unnamed s) :
    s.loader.getLoadedLibrariesNames = s.loader.contained := by
  refine List.map_congr_left fun entry hmem => ?_
  rw [h.libName entry hmem, h.fileName entry.1 (List.mem_map_of_mem hmem)]

theorem balance_dlopen (s : LibraryRun) (name j : String) :
    (s.dlopen name).balance j = s.balance j + if j = name then 1 else 0 := by
  unfold balance dlopen
  simp only
  by_cases hj : j = name
  · rw [hj, Function.update_self, if_pos rfl, Int.natCast_succ]
    omega
  · rw [Function.update_of_ne hj, if_neg hj, add_zero]

theorem balance_dlclose (s : LibraryRun) (name j : String) :
    (s.dlclose name).balance j = s.balance j - if j = name then 1 else 0 := by
  unfold balance dlclose
  simp only
  by_cases hj : j = name
  · rw [hj, Function.update_self, if_pos rfl, Int.natCast_succ]
    omega
  · rw [Function.update_of_ne hj, if_neg hj, sub_zero]

/-- **The cases of `load`.** -/
theorem load_cases (s : LibraryRun) (name : String) (dlopen : Option UInt64)
    (dlsym : Nat → Option UInt64) :
    (s.Loads dlopen dlsym ∧ ∃ descr : SLibraryDescr, descr.libName = "" ∧
      (s.load name dlopen dlsym).2 =
        { s.dlopen name with loader := s.loader.insert name descr }) ∨
    (¬ s.Loads dlopen dlsym ∧ (s.load name dlopen dlsym).2.loader = s.loader ∧
      ∀ j, (s.load name dlopen dlsym).2.balance j = s.balance j) := by
  unfold load
  cases dlopen with
  | none => exact Or.inr ⟨fun h => Bool.false_ne_true h.1, rfl, fun _ => rfl⟩
  | some handler =>
    have hloader : (s.dlopen name).loader = s.loader := rfl
    simp only [hloader]
    cases hsymbols : s.loader.symbolsOf dlsym with
    | none =>
      refine Or.inr ⟨fun h => ?_, rfl, fun j => ?_⟩
      · have hsome := h.2
        rw [hsymbols] at hsome
        cases hsome
      · simp only
        rw [balance_dlclose, balance_dlopen, add_sub_cancel_right]
    | some symbols =>
      refine Or.inl ⟨⟨rfl, by rw [hsymbols]; rfl⟩, _, rfl, rfl⟩

/-- A symbol changes neither names nor handles. -/
theorem resolve_cases (s : LibraryRun) (name symbol : String) (dlsym : Option UInt64) :
    (s.resolve name symbol dlsym).2.loader.contained = s.loader.contained ∧
    (s.resolve name symbol dlsym).2.loader.getLoadedLibrariesNames =
      s.loader.getLoadedLibrariesNames ∧
    (s.resolve name symbol dlsym).2.balance = s.balance := by
  unfold resolve
  split
  · exact ⟨rfl, rfl, rfl⟩
  · split
    · exact ⟨rfl, rfl, rfl⟩
    · split
      · exact ⟨rfl, rfl, rfl⟩
      · exact ⟨LibraryLoader.map_addSymbol Prod.fst fun _ _ _ _ => rfl,
          LibraryLoader.map_addSymbol (fun entry => entry.2.libName) fun _ _ _ heq => heq, rfl⟩

/-! ## Handles -/

theorem Balanced.load (h : Balanced s) {name : String} {dlopen : Option UInt64}
    {dlsym : Nat → Option UInt64} (hc : s.LoadsOnce (.load name dlopen dlsym)) :
    Balanced (s.load name dlopen dlsym).2 := by
  intro j
  rcases load_cases s name dlopen dlsym with ⟨hloads, descr, _, heq⟩ | ⟨_, hloader, hbalance⟩
  · have hnew := hc hloads
    rw [heq]
    show (s.dlopen name).balance j = if j ∈ (s.loader.insert name descr).contained then 1 else 0
    rw [balance_dlopen, h j]
    simp only [LibraryLoader.mem_contained_insert]
    by_cases hj : j = name
    · rw [if_pos hj, if_pos (Or.inl hj), if_neg (hj ▸ hnew), zero_add]
    · simp only [hj, false_or, if_false, add_zero]
  · rw [hbalance, hloader]
    exact h j

/-- **A library that is unloaded was opened once, and is closed.** -/
theorem Balanced.unload (h : Balanced s) (name : String) : Balanced (s.unload name) := by
  unfold LibraryRun.unload
  split
  · next hfind =>
    have hmem := LibraryLoader.isSome_find.mp hfind
    intro j
    show (s.dlclose name).balance j = if j ∈ (s.loader.erase name).contained then 1 else 0
    rw [balance_dlclose, h j]
    simp only [LibraryLoader.mem_contained_erase]
    by_cases hj : j = name
    · rw [if_pos hj, hj, if_pos hmem, if_neg fun hand => hand.2 rfl, sub_self]
    · simp only [hj, ne_eq, not_false_eq_true, and_true, if_false, sub_zero]
  · exact h

theorem Balanced.resolve (h : Balanced s) (name symbol : String) (dlsym : Option UInt64) :
    Balanced (s.resolve name symbol dlsym).2 := by
  obtain ⟨hcontained, _, hbalance⟩ := resolve_cases s name symbol dlsym
  intro j
  rw [hcontained, hbalance]
  exact h j

theorem Balanced.destroy (h : Balanced s) (hc : s.loader.contained = []) :
    Balanced s.destroy := by
  intro j
  have hold := h j
  rw [hc] at hold
  exact hold

theorem Balanced.step (h : Balanced s) {a : LibraryAction} (hc : s.LoadsOnce a)
    (hs : s.step a = some s') : Balanced s' := by
  unfold LibraryRun.step at hs
  split at hs
  · cases hs
  · cases a with
    | load name dlopen dlsym => exact Option.some.inj hs ▸ h.load hc
    | unload name => exact Option.some.inj hs ▸ h.unload name
    | resolve name symbol dlsym => exact Option.some.inj hs ▸ h.resolve name symbol dlsym
    | destroy => exact Option.some.inj hs ▸ h.destroy hc

/-- **A library that is loaded again is opened twice, and the destructor closes none.** -/
theorem Balanced.loadsOnce (h : Balanced s) {a : LibraryAction} (hs : s.step a = some s')
    (hp : Balanced s') : s.LoadsOnce a := by
  unfold LibraryRun.step at hs
  split at hs
  · cases hs
  · cases a with
    | load name dlopen dlsym =>
      obtain rfl : _ = s' := Option.some.inj hs
      intro hloads hold
      rcases load_cases s name dlopen dlsym with ⟨_, descr, _, heq⟩ | ⟨hfailed, _⟩
      · rw [heq] at hp
        have hopened : (s.dlopen name).balance name =
            if name ∈ (s.loader.insert name descr).contained then 1 else 0 := hp name
        rw [balance_dlopen, h name, if_pos hold, if_pos rfl,
          if_pos (LibraryLoader.mem_contained_insert.mpr (Or.inl rfl))] at hopened
        cases hopened
      · exact hfailed hloads
    | destroy =>
      obtain rfl : _ = s' := Option.some.inj hs
      refine List.eq_nil_iff_forall_not_mem.mpr fun name hmem => ?_
      have hopen : s.balance name = 1 := by rw [h name, if_pos hmem]
      have hleft : s.balance name = 0 := hp name
      rw [hopen] at hleft
      cases hleft
    | _ => trivial

/-! ## Names -/

theorem Unnamed.step (h : Unnamed s) {a : LibraryAction} (hc : s.LoadsUnnamed a)
    (hs : s.step a = some s') : Unnamed s' := by
  unfold LibraryRun.step at hs
  split at hs
  · cases hs
  · cases a with
    | load name dlopen dlsym =>
      obtain rfl : _ = s' := Option.some.inj hs
      rcases load_cases s name dlopen dlsym with ⟨hloads, descr, hdescr, heq⟩ | ⟨_, hloader, _⟩
      · rw [heq]
        refine ⟨fun entry hentry => ?_, fun j hj => ?_⟩
        · rcases LibraryLoader.mem_insert hentry with rfl | hold
          · exact hdescr
          · exact h.libName entry hold
        · exact (LibraryLoader.mem_contained_insert.mp hj).elim (fun he => he.trans (hc hloads))
            (h.fileName j)
      · exact ⟨hloader ▸ h.libName, hloader ▸ h.fileName⟩
    | unload name =>
      obtain rfl : _ = s' := Option.some.inj hs
      unfold LibraryRun.unload
      split
      · exact ⟨fun entry hentry => h.libName entry (List.mem_of_mem_filter hentry),
          fun j hj => h.fileName j (LibraryLoader.mem_contained_erase.mp hj).1⟩
      · exact h
    | resolve name symbol dlsym =>
      obtain rfl : _ = s' := Option.some.inj hs
      obtain ⟨hcontained, hnames, _⟩ := resolve_cases s name symbol dlsym
      refine ⟨fun entry hentry => ?_, fun j hj => h.fileName j (hcontained ▸ hj)⟩
      have hlisted : entry.2.libName ∈ s.loader.getLoadedLibrariesNames :=
        hnames ▸ List.mem_map_of_mem hentry
      obtain ⟨old, hold, heq⟩ := List.mem_map.mp hlisted
      exact heq.symm.trans (h.libName old hold)
    | destroy =>
      obtain rfl : _ = s' := Option.some.inj hs
      exact ⟨fun _ hentry => (by cases hentry), fun _ hname => (by cases hname)⟩

/-- **A library with a name is not listed.** -/
theorem Unnamed.loadsUnnamed (h : Unnamed s) {a : LibraryAction} (hs : s.step a = some s')
    (hp : s'.loader.getLoadedLibrariesNames = s'.loader.contained) : s.LoadsUnnamed a := by
  unfold LibraryRun.step at hs
  split at hs
  · cases hs
  · cases a with
    | load name dlopen dlsym =>
      obtain rfl : _ = s' := Option.some.inj hs
      intro hloads
      rcases load_cases s name dlopen dlsym with ⟨_, descr, hdescr, heq⟩ | ⟨hfailed, _⟩
      · have hmem : name ∈ (s.loader.insert name descr).contained :=
          LibraryLoader.mem_contained_insert.mpr (Or.inl rfl)
        rw [heq] at hp
        rw [← (show (s.loader.insert name descr).getLoadedLibrariesNames = _ from hp)] at hmem
        -- the name is one of those in the list, and these are empty
        obtain ⟨entry, hentry, hname⟩ := List.mem_map.mp hmem
        rcases LibraryLoader.mem_insert hentry with rfl | hold
        · exact hname.symm.trans hdescr
        · exact hname.symm.trans (h.libName entry hold)
      · exact absurd hloads hfailed
    | _ => trivial

/-! ## Runs -/

/-- Nothing is loaded, with the filter of the settings. -/
def start (filterLibrariesBySymbols : List String) : LibraryRun where
  loader := { librariesDescrByName := []
              keys := List.nodup_nil
              filterLibrariesBySymbols := filterLibrariesBySymbols }

theorem balanced_start (filter : List String) : Balanced (start filter) := fun _ => rfl

theorem unnamed_start (filter : List String) : Unnamed (start filter) :=
  ⟨fun _ h => (by cases h), fun _ h => (by cases h)⟩

/-- **The handles alone** balance when no library is loaded again and none is left at the end. -/
theorem balanced_iff (filter : List String) (as : List LibraryAction) :
    AlwaysState step Balanced (start filter) as ↔ AlwaysStep step LoadsOnce (start filter) as :=
  alwaysState_iff_of_inv step Balanced (fun _ h => h) (fun _ _ _ h hc hs => h.step hc hs)
    (fun _ _ _ h hs hp => h.loadsOnce hs hp) as _ (balanced_start filter)

/--
**When the handles balance and the names are listed.**

In every state each contained library has one open handle, no other one has any, and the names are
listed, exactly when every library that is loaded has the empty file name and is not loaded yet, and
none is contained when the destructor runs.
-/
theorem library_handles_iff (filter : List String) (as : List LibraryAction) :
    AlwaysState step HandlesBalance (start filter) as ↔
      AlwaysStep step (fun s a => s.LoadsOnce a ∧ s.LoadsUnnamed a) (start filter) as :=
  alwaysState_iff_of_inv step (fun s => s.Balanced ∧ s.Unnamed) (fun _ h => ⟨h.1, h.2.names⟩)
    (fun _ _ _ h hc hs => ⟨h.1.step hc.1 hs, h.2.step hc.2 hs⟩)
    (fun _ _ _ h hs hp => ⟨h.1.loadsOnce hs hp.balanced, h.2.loadsUnnamed hs hp.names⟩) as _
    ⟨balanced_start filter, unnamed_start filter⟩

/-- The list of the names has an empty one. -/
theorem loaded_library_not_listed :
    ¬ AlwaysState step HandlesBalance (start []) [.load "libfilter.so" (some 1) fun _ => none] := by
  intro h
  have hnames := (h.2 _ rfl).names
  have hlisted : [""] = ["libfilter.so"] := hnames
  exact absurd hlisted (by decide)

end LibraryRun

end MicroserviceCommon
