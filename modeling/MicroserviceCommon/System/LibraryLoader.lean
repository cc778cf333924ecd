import Mathlib.Data.List.Sort
import MicroserviceCommon.Infra.Run
import MicroserviceCommon.Infra.UnorderedMap

/-!
# `LibraryLoader`

A library is opened with `dlopen` and kept in a map by its file name. What `dlopen` and `dlsym`
answer is an argument. The calls that the system has seen are counted for each file name.
-/

namespace MicroserviceCommon

open Infra

structure SLibraryDescr where
  libName : String := ""
  dlHandler : UInt64
  dlSymbolsByName : UnorderedMap String UInt64 := UnorderedMap.empty

/-- The libraries in the order of the map, and the filter of the settings. -/
structure LibraryLoader where
  librariesDescrByName : List (String × SLibraryDescr) := []
  keys : (librariesDescrByName.map Prod.fst).Nodup := by simp
  filterLibrariesBySymbols : List String := []

namespace LibraryLoader

def contained (l : LibraryLoader) : List String := l.librariesDescrByName.map Prod.fst

def getLoadedLibrariesNames (l : LibraryLoader) : List String :=
  l.librariesDescrByName.map fun entry => entry.2.libName

def find (l : LibraryLoader) (libFileName : String) : Option SLibraryDescr :=
  l.librariesDescrByName.lookup libFileName

/-- `insert` keeps the library of a name that is there. -/
def insert (l : LibraryLoader) (libFileName : String) (libraryDescriptor : SLibraryDescr) :
    LibraryLoader :=
  if h : libFileName ∈ l.contained then l
  else
    { l with
      librariesDescrByName := l.librariesDescrByName.orderedInsert (fun a b => a.1 ≤ b.1)
        (libFileName, libraryDescriptor)
      keys := by
        rw [((List.perm_orderedInsert _ _ _).map Prod.fst).nodup_iff]
        exact List.nodup_cons.mpr ⟨h, l.keys⟩ }

def erase (l : LibraryLoader) (libFileName : String) : LibraryLoader :=
  { l with
    librariesDescrByName := l.librariesDescrByName.filter fun entry => entry.1 != libFileName
    keys := (List.filter_sublist.map Prod.fst).nodup l.keys }

/-- A symbol is added to a library. -/
def addSymbol (l : LibraryLoader) (libFileName symbolName : String) (runTimeAddress : UInt64) :
    LibraryLoader :=
  { l with
    librariesDescrByName := l.librariesDescrByName.map fun entry =>
      if entry.1 = libFileName then
        (entry.1, { entry.2 with
          dlSymbolsByName := entry.2.dlSymbolsByName.insert symbolName runTimeAddress })
      else entry
    keys := by
      rw [List.map_map]
      refine (List.map_congr_left fun entry _ => ?_) ▸ l.keys
      show entry.1 = Prod.fst (if _ then _ else _)
      split <;> rfl }

/-- The loop over the filter. `dlsym` has an answer for each call, `none` is an error. -/
def filterSymbols (dlsym : Nat → Option UInt64) :
    Nat → List String → UnorderedMap String UInt64 → Option (UnorderedMap String UInt64)
  | _, [], symbols => some symbols
  | call, symbolName :: names, symbols =>
    (dlsym call).bind fun runTimeAddress =>
      filterSymbols dlsym (call + 1) names (symbols.insert symbolName runTimeAddress)

/-- The symbols of a new library, none when one of the filter is missing. -/
def symbolsOf (l : LibraryLoader) (dlsym : Nat → Option UInt64) :
    Option (UnorderedMap String UInt64) :=
  filterSymbols dlsym 0 l.filterLibrariesBySymbols UnorderedMap.empty

end LibraryLoader

/-- The calls of `dlopen` that succeeded and those of `dlclose`. -/
structure LibraryRun where
  loader : LibraryLoader := {}
  opened : String → Nat := fun _ => 0
  closed : String → Nat := fun _ => 0
  destroyed : Bool := false

inductive LibraryAction where
  | load (libFileName : String) (dlopen : Option UInt64) (dlsym : Nat → Option UInt64)
  | unload (libFileName : String)
  | resolve (libFileName symbolName : String) (dlsym : Option UInt64)
  | destroy

namespace LibraryRun

def dlopen (s : LibraryRun) (libFileName : String) : LibraryRun :=
  { s with opened := Function.update s.opened libFileName (s.opened libFileName + 1) }

def dlclose (s : LibraryRun) (libFileName : String) : LibraryRun :=
  { s with closed := Function.update s.closed libFileName (s.closed libFileName + 1) }

/-- `libName` of the descriptor is not set. -/
def load (s : LibraryRun) (libFileName : String) (dlopen : Option UInt64)
    (dlsym : Nat → Option UInt64) : Bool × LibraryRun :=
  match dlopen with
  | none => (false, s)
  | some handler =>
    let s := s.dlopen libFileName
    match s.loader.symbolsOf dlsym with
    | none => (false, s.dlclose libFileName)
    | some symbols =>
      (true, { s with
        loader := s.loader.insert libFileName
          { dlHandler := handler, dlSymbolsByName := symbols } })

def unload (s : LibraryRun) (libFileName : String) : LibraryRun :=
  if (s.loader.find libFileName).isSome then
    { s.dlclose libFileName with loader := s.loader.erase libFileName }
  else s

/-- The address, `none` for `nullptr`. -/
def resolve (s : LibraryRun) (libFileName symbolName : String) (dlsym : Option UInt64) :
    Option UInt64 × LibraryRun :=
  match s.loader.find libFileName with
  | none => (none, s)
  | some libraryDescriptor =>
    match libraryDescriptor.dlSymbolsByName symbolName with
    | some runTimeAddress => (some runTimeAddress, s)
    | none =>
      match dlsym with
      | none => (none, s)
      | some runTimeAddress =>
        (some runTimeAddress,
          { s with loader := s.loader.addSymbol libFileName symbolName runTimeAddress })

/-- The destructor deletes the descriptors. -/
def destroy (s : LibraryRun) : LibraryRun :=
  { s with
    loader := { filterLibrariesBySymbols := s.loader.filterLibrariesBySymbols }
    destroyed := true }

/-- Nothing is called after the destructor. -/
def step (s : LibraryRun) (a : LibraryAction) : Option LibraryRun :=
  if s.destroyed then none
  else
    match a with
    | .load libFileName dlopen dlsym => some (s.load libFileName dlopen dlsym).2
    | .unload libFileName => some (s.unload libFileName)
    | .resolve libFileName symbolName dlsym => some (s.resolve libFileName symbolName dlsym).2
    | .destroy => some s.destroy

end LibraryRun

end MicroserviceCommon
