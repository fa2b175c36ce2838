import Mathlib.Data.List.Find
import Mathlib.Data.List.Infix
import LivePage.Config.Load

/-!
# The nearest configuration file

A configuration file is looked for in the working directory, and then in one directory after
another around it, up to the root.  The search ends at the first place where there is one, so
nothing that is elsewhere plays a part.
-/

namespace LivePage

/-- The directories around a directory are the ends of its list of names. -/
theorem Place.around_eq_tails (p : Place) : p.around = p.tails := by
  induction p with
  | nil => rfl
  | cons name p ih => rw [Place.around, ih, List.tails_cons]

namespace Config

/-- The places that the search from a directory may look at, in its order. -/
def lookedAt (start : Place) : List Place :=
  start.around.map (fileName :: ·)

/-- A directory with a configuration file that has none nearer to the start.  The nearer of two
directories around a start is the one with more names. -/
structure IsNearest (isPresent : Place → Bool) (start directory : Place) : Prop where
  around : directory <:+ start
  present : isPresent (fileName :: directory) = true
  nearest : ∀ nearer, nearer <:+ start → directory.length < nearer.length →
    isPresent (fileName :: nearer) = false

variable {isPresent : Place → Bool} {start directory : Place}

/-! ## Places that are looked at -/

theorem mem_lookedAt_iff {p : Place} :
    p ∈ lookedAt start ↔ ∃ directory, directory <:+ start ∧ fileName :: directory = p := by
  rw [lookedAt, List.mem_map, Place.around_eq_tails]
  simp only [List.mem_tails]

theorem length_lookedAt (start : Place) : (lookedAt start).length = start.length + 1 := by
  rw [lookedAt, List.length_map, Place.around_eq_tails, List.length_tails]

/-- The search goes over the places one by one. -/
theorem discover?_eq_find? (isPresent : Place → Bool) (start : Place) :
    discover? isPresent start = (lookedAt start).find? isPresent := by
  induction start with
  | nil =>
      rw [discover?, lookedAt, Place.around, List.map_singleton, List.find?_singleton]
  | cons name around ih =>
      rw [discover?, lookedAt, Place.around, List.map_cons, List.find?_cons, ih]
      cases isPresent (fileName :: name :: around) <;> rfl

/-! ## The nearest directory -/

theorem isNearest_self (h : isPresent (fileName :: start) = true) :
    IsNearest isPresent start start := by
  refine ⟨List.suffix_refl start, h, ?_⟩
  intro nearer hnearer hlength
  have hle := hnearer.length_le
  omega

/-- A file in the start itself is nearer than any other one. -/
theorem IsNearest.eq_start (h : IsNearest isPresent start directory)
    (hstart : isPresent (fileName :: start) = true) : directory = start := by
  apply h.around.eq_of_length_le
  by_contra hlength
  rw [h.nearest start (List.suffix_refl start) (Nat.lt_of_not_le hlength)] at hstart
  cases hstart

/-- Where the start has no file, the search goes on from the directory around it. -/
theorem isNearest_cons_iff {name : String}
    (habsent : isPresent (fileName :: name :: start) = false) :
    IsNearest isPresent (name :: start) directory ↔ IsNearest isPresent start directory := by
  constructor
  · intro h
    refine ⟨?_, h.present, ?_⟩
    · rcases List.suffix_cons_iff.mp h.around with rfl | haround
      · have hpresent := h.present
        rw [habsent] at hpresent
        cases hpresent
      · exact haround
    · intro nearer hnearer
      exact h.nearest nearer (hnearer.trans (List.suffix_cons name start))
  · intro h
    refine ⟨h.around.trans (List.suffix_cons name start), h.present, ?_⟩
    intro nearer hnearer hlength
    rcases List.suffix_cons_iff.mp hnearer with rfl | haround
    · exact habsent
    · exact h.nearest nearer haround hlength

theorem discover?_eq_some_iff {found : Place} :
    discover? isPresent start = some found ↔
      ∃ directory, found = fileName :: directory ∧ IsNearest isPresent start directory := by
  have hhere (start : Place) (hpresent : isPresent (fileName :: start) = true) :
      some (fileName :: start) = some found ↔
        ∃ directory, found = fileName :: directory ∧ IsNearest isPresent start directory := by
    constructor
    · rintro ⟨⟩
      exact ⟨start, rfl, isNearest_self hpresent⟩
    · rintro ⟨directory, rfl, hnearest⟩
      rw [hnearest.eq_start hpresent]
  induction start with
  | nil =>
      by_cases hpresent : isPresent [fileName] = true
      · rw [discover?, if_pos hpresent]
        exact hhere [] hpresent
      · rw [discover?, if_neg hpresent]
        refine iff_of_false (by simp) ?_
        rintro ⟨directory, -, hnearest⟩
        apply hpresent
        rw [← List.suffix_nil.mp hnearest.around]
        exact hnearest.present
  | cons name around ih =>
      by_cases hpresent : isPresent (fileName :: name :: around) = true
      · rw [discover?, if_pos hpresent]
        exact hhere (name :: around) hpresent
      · rw [discover?, if_neg hpresent]
        simp only [isNearest_cons_iff (Bool.eq_false_iff.mpr hpresent)]
        exact ih

theorem discover?_eq_none_iff :
    discover? isPresent start = none ↔
      ∀ directory, directory <:+ start → isPresent (fileName :: directory) = false := by
  rw [discover?_eq_find?, List.find?_eq_none]
  constructor
  · intro h directory haround
    have habsent := h _ (mem_lookedAt_iff.mpr ⟨directory, haround, rfl⟩)
    exact Bool.eq_false_iff.mpr habsent
  · intro h p hp
    obtain ⟨directory, haround, rfl⟩ := mem_lookedAt_iff.mp hp
    rw [h directory haround]
    exact Bool.false_ne_true

theorem discover?_congr {other : Place → Bool}
    (h : ∀ p ∈ lookedAt start, other p = isPresent p) :
    discover? other start = discover? isPresent start := by
  rw [discover?_eq_find?, discover?_eq_find?]
  exact List.find?_congr h

/-- Wherever there are files, the search ends after one look at each directory around the start,
the root being the last; it finds the file in the nearest one that has one, and nothing if none
has; and what is in other directories plays no part. -/
theorem discover?_nearest (isPresent : Place → Bool) (start : Place) :
    (discover? isPresent start = (lookedAt start).find? isPresent ∧
      (lookedAt start).length = start.length + 1) ∧
    (∀ found, discover? isPresent start = some found ↔
      ∃ directory, found = fileName :: directory ∧ IsNearest isPresent start directory) ∧
    (discover? isPresent start = none ↔
      ∀ directory, directory <:+ start → isPresent (fileName :: directory) = false) ∧
    ∀ other : Place → Bool,
      (∀ directory, directory <:+ start →
        other (fileName :: directory) = isPresent (fileName :: directory)) →
      discover? other start = discover? isPresent start := by
  refine ⟨⟨discover?_eq_find? isPresent start, length_lookedAt start⟩,
    fun found => discover?_eq_some_iff, discover?_eq_none_iff, ?_⟩
  intro other hother
  apply discover?_congr
  intro p hp
  obtain ⟨directory, haround, rfl⟩ := mem_lookedAt_iff.mp hp
  exact hother directory haround

/-- Neither a file in a directory beside the start nor one inside it is found, but the one two
directories up. -/
example :
    let files : List Place :=
      [["dz.toml", "site"], ["dz.toml", "guide", "docs", "site", "a"], ["dz.toml", "b", "site"]]
    discover? (· ∈ files) ["docs", "site"] = some ["dz.toml", "site"] := by
  decide

/-! ## Surroundings -/

namespace Surroundings

/-- What is read depends on nothing but the paths that may be looked at. -/
theorem readFile_congr {s s' : Surroundings} (hdirectory : s'.directory = s.directory)
    (henvironment : s'.environment = s.environment) {given : Option String}
    (h : ∀ path ∈ candidates s.directory given, s'.find? path = s.find? path) :
    s'.readFile given = s.readFile given := by
  have hread (path : String) (hpath : path ∈ candidates s.directory given) :
      s'.readPath path = s.readPath path := by
    rw [readPath, readPath, h path hpath, henvironment]
  cases given with
  | some path => exact hread path (List.mem_singleton_self path)
  | none =>
      have hcandidate (p : Place) (hp : p ∈ lookedAt s.directory) :
          p.path ∈ candidates s.directory none := by
        obtain ⟨directory, haround, rfl⟩ := List.mem_map.mp hp
        exact List.mem_map_of_mem haround
      have hfound : discover? s'.has s'.directory = discover? s.has s.directory := by
        rw [hdirectory]
        apply discover?_congr
        intro p hp
        rw [has, has, h p.path (hcandidate p hp)]
      rw [readFile, readFile, hfound]
      cases hdiscover : discover? s.has s.directory with
      | none => rfl
      | some p =>
          rw [discover?_eq_find?] at hdiscover
          exact hread p.path (hcandidate p (List.mem_of_find?_eq_some hdiscover))

end Surroundings
end Config
end LivePage
