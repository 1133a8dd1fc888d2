import Mathlib.Data.List.Dedup
import ReverseProxy.AdminHistory

/-! What the admin store holds after any sequence of recorded bundles: the last one of each
version, the last version, and the one a rollback goes back to. Only the list of earlier
versions is bounded; the bundles themselves stay. -/
namespace ReverseProxy.BundleHistory
open FiniteMap SignedBundle AdminHistory

def recordAll (list : List Bundle) : Store := list.foldl Store.record {}

abbrev versionOf (b : Bundle) : String := b.info.version

def lastOf (list : List Bundle) (version : String) : Option Bundle :=
  list.reverse.find? (fun b => versionOf b = version)

def currentOf (list : List Bundle) : String := (list.getLast?.map versionOf).getD ""

/- The version that was current just before the present run of one version. -/
def beforeRun (list : List Bundle) : Option String :=
  ((list.reverse.dropWhile (fun b => versionOf b = currentOf list)).head?).map versionOf

section
variable {list : List Bundle} {b : Bundle}

theorem recordAllLast (list : List Bundle) (b : Bundle) : recordAll (list ++ [b]) = (recordAll list).record b :=
  List.foldl_concat ..

theorem currentOfLast (list : List Bundle) (b : Bundle) : currentOf (list ++ [b]) = versionOf b := by
  unfold currentOf
  rw [List.getLast?_append]
  rfl

theorem lastOfLast (list : List Bundle) (b : Bundle) (version : String) :
    lastOf (list ++ [b]) version = if versionOf b = version then some b else lastOf list version := by
  unfold lastOf
  rw [List.reverse_append]
  change List.find? _ (b :: list.reverse) = _
  rw [List.find?_cons]
  split <;> simp_all

theorem currentRecorded (some_ : currentOf list ≠ "") : ∃ b ∈ list, versionOf b = currentOf list := by
  induction list using List.reverseRecOn with
  | nil => exact absurd rfl some_
  | append_singleton list b _ => exact ⟨b,by simp,(currentOfLast list b).symm⟩

theorem lastOfCurrent (list : List Bundle) (some_ : list ≠ []) : lastOf list (currentOf list) = list.getLast? := by
  induction list using List.reverseRecOn with
  | nil => exact absurd rfl some_
  | append_singleton list b _ => rw [currentOfLast,lastOfLast,if_pos rfl,List.getLast?_concat]

theorem lastOfRecorded (inside : b ∈ list) : ∃ c, lastOf list (versionOf b) = some c := by
  have found : (lastOf list (versionOf b)).isSome := List.find?_isSome.mpr ⟨b,List.mem_reverse.mpr inside,by simp⟩
  exact Option.isSome_iff_exists.mp found

theorem lastOfMember {version : String} (found : lastOf list version = some b) : b ∈ list ∧ versionOf b = version :=
  ⟨List.mem_reverse.mp (List.mem_of_find?_eq_some found),by simpa using List.find?_some found⟩

theorem beforeRunDiffers {c : Bundle} (first : b ∈ list) (second : c ∈ list) (differ : versionOf b ≠ versionOf c) :
    ∃ d ∈ list, beforeRun list = some (versionOf d) ∧ versionOf d ≠ currentOf list := by
  cases rest : list.reverse.dropWhile (fun b => versionOf b = currentOf list) with
  | nil =>
    have all := List.dropWhile_eq_nil_iff.mp rest
    have one : versionOf b = currentOf list := by simpa using all b (List.mem_reverse.mpr first)
    have two : versionOf c = currentOf list := by simpa using all c (List.mem_reverse.mpr second)
    exact absurd (one.trans two.symm) differ
  | cons d tail =>
    have inside : d ∈ list.reverse := (List.dropWhile_suffix _).subset (rest ▸ List.mem_cons_self)
    have stops := List.head?_dropWhile_not (fun b => decide (versionOf b = currentOf list)) list.reverse
    rw [rest] at stops
    refine ⟨d,List.mem_reverse.mp inside,?_,by simpa using stops⟩
    rw [beforeRun,rest]
    rfl

theorem recordCurrent (s : Store) (named : versionOf b ≠ "") : (s.record b).current = versionOf b := by
  unfold Store.record
  rw [if_neg named]

theorem recordBundles (s : Store) (named : versionOf b ≠ "") (version : String) :
    (s.record b).get version = if version = versionOf b then some b else s.get version := by
  unfold Store.record
  rw [if_neg named]
  exact Table.getInsert ..

theorem recordEarlier (s : Store) (named : versionOf b ≠ "") :
    (s.record b).earlier =
      if s.current ≠ "" ∧ s.current ≠ versionOf b then (s.current :: s.earlier).take bundleHistoryLimit else s.earlier := by
  unfold Store.record
  rw [if_neg named]

end

section
variable {list : List Bundle} (named : ∀ b ∈ list, versionOf b ≠ "")
include named

theorem allCurrent : (recordAll list).current = currentOf list := by
  induction list using List.reverseRecOn with
  | nil => rfl
  | append_singleton list b ih => rw [recordAllLast,currentOfLast,recordCurrent _ (named b (by simp))]

theorem allGet (version : String) : (recordAll list).get version = lastOf list version := by
  induction list using List.reverseRecOn with
  | nil => rfl
  | append_singleton list b ih =>
    rw [recordAllLast,lastOfLast,recordBundles _ (named b (by simp)),ih (fun c inside => named c (by simp [inside]))]
    simp only [eq_comm]

theorem beforeRunLast (b : Bundle) :
    beforeRun (list ++ [b]) =
      if currentOf list ≠ "" ∧ currentOf list ≠ versionOf b then some (currentOf list) else beforeRun list := by
  unfold beforeRun
  rw [currentOfLast,List.reverse_append]
  change ((List.dropWhile _ (b :: list.reverse)).head?).map versionOf = _
  rw [List.dropWhile_cons_of_pos (by simp)]
  induction list using List.reverseRecOn with
  | nil => rfl
  | append_singleton list c _ =>
    have current : versionOf c ≠ "" := named c (by simp)
    rw [currentOfLast,List.reverse_append]
    change ((List.dropWhile _ (c :: list.reverse)).head?).map versionOf = _
    by_cases same : versionOf c = versionOf b
    · rw [if_neg (fun differ => differ.2 same),same]
      rfl
    · rw [if_pos ⟨current,same⟩,List.dropWhile_cons_of_neg (by simpa using same)]
      rfl

theorem allEarlier : (recordAll list).earlier.head? = beforeRun list := by
  induction list using List.reverseRecOn with
  | nil => rfl
  | append_singleton list b ih =>
    have before : ∀ c ∈ list, versionOf c ≠ "" := fun c inside => named c (by simp [inside])
    rw [recordAllLast,recordEarlier _ (named b (by simp)),allCurrent before,beforeRunLast before,← ih before]
    split
    · rw [List.head?_take]
      rfl
    · rfl

theorem allRecorded {version : String} (inside : version ∈ (recordAll list).earlier) : ∃ b ∈ list, versionOf b = version := by
  induction list using List.reverseRecOn with
  | nil => cases inside
  | append_singleton list b ih =>
    have before : ∀ c ∈ list, versionOf c ≠ "" := fun c inside => named c (by simp [inside])
    rw [recordAllLast,recordEarlier _ (named b (by simp)),allCurrent before] at inside
    have earlier : ∃ c ∈ list, versionOf c = version := by
      split at inside
      · rename_i pushed
        rcases List.mem_cons.mp (List.mem_of_mem_take inside) with rfl | kept
        · exact currentRecorded pushed.1
        · exact ih before kept
      · exact ih before inside
    obtain ⟨c,there,same⟩ := earlier
    exact ⟨c,by simp [there],same⟩

theorem allLatest : (recordAll list).latest = list.getLast? := by
  unfold Store.latest
  rw [allCurrent named]
  split
  · rename_i none
    cases list using List.reverseRecOn with
    | nil => rfl
    | append_singleton list b => exact absurd ((currentOfLast list b).symm.trans none) (named b (by simp))
  · rename_i some_
    have listed : list ≠ [] := by
      rintro rfl
      exact some_ rfl
    exact (allGet named _).trans (lastOfCurrent list listed)

theorem allPrevious : (recordAll list).previous = (beforeRun list).bind (lastOf list) := by
  rw [← allEarlier named]
  unfold Store.previous
  cases (recordAll list).earlier with
  | nil => rfl
  | cons version rest => exact allGet named version

theorem allLen : (recordAll list).bundles.len = (list.map versionOf).dedup.length := by
  have same : ∀ version, version ∈ (recordAll list).bundles.entries.map (·.1) ↔ version ∈ (list.map versionOf).dedup := by
    intro version
    rw [List.mem_dedup]
    constructor
    · intro inside
      obtain ⟨entry,there,rfl⟩ := List.mem_map.mp inside
      have found : (recordAll list).get entry.1 = some entry.2 := Table.getMember.mpr there
      obtain ⟨member,own⟩ := lastOfMember ((allGet named _).symm.trans found)
      exact List.mem_map.mpr ⟨entry.2,member,own⟩
    · intro inside
      obtain ⟨b,there,rfl⟩ := List.mem_map.mp inside
      obtain ⟨c,found⟩ := lastOfRecorded there
      exact List.mem_map.mpr ⟨_,Table.getMember.mp ((allGet named _).trans found),rfl⟩
  have perm := (List.perm_ext_iff_of_nodup (recordAll list).bundles.unique (List.nodup_dedup _)).mpr same
  rw [← perm.length_eq,List.length_map]
  rfl

end

structure Remembers (list : List Bundle) (s : Store) : Prop where
  latest : s.latest = list.getLast?
  previous : ∀ b ∈ list, ∀ c ∈ list, versionOf b ≠ versionOf c →
    ∃ version d, beforeRun list = some version ∧ version ≠ s.current ∧ lastOf list version = some d ∧ s.previous = some d
  resolves : ∀ version ∈ s.earlier, ∃ b, s.get version = some b
  bounded : s.bundles.len ≤ bundleHistoryLimit + 1

theorem remembersFew {list : List Bundle} (named : ∀ b ∈ list, versionOf b ≠ "") :
    Remembers list (recordAll list) ↔ (list.map versionOf).dedup.length ≤ bundleHistoryLimit + 1 := by
  constructor
  · intro kept
    rw [← allLen named]
    exact kept.bounded
  · intro few
    refine ⟨allLatest named,?_,?_,allLen named ▸ few⟩
    · intro b first c second differ
      obtain ⟨d,inside,before,other⟩ := beforeRunDiffers first second differ
      obtain ⟨last,found⟩ := lastOfRecorded inside
      refine ⟨versionOf d,last,before,by rwa [allCurrent named],found,?_⟩
      rw [allPrevious named,before]
      exact found
    · intro version inside
      obtain ⟨b,there,rfl⟩ := allRecorded named inside
      obtain ⟨last,found⟩ := lastOfRecorded there
      exact ⟨last,(allGet named _).trans found⟩

def versioned (version : String) : Bundle := { info := { version := version } }

theorem remembersTwo : Remembers [versioned "a",versioned "b",versioned "b"]
    (recordAll [versioned "a",versioned "b",versioned "b"]) :=
  (remembersFew (by decide)).mpr (by decide)

def twentyTwo : List Bundle :=
  ["a","b","c","d","e","f","g","h","i","j","k","l","m","n","o","p","q","r","s","t","u","v"].map versioned

theorem twentyTwoKept : (∀ b ∈ twentyTwo, versionOf b ≠ "") ∧ ¬Remembers twentyTwo (recordAll twentyTwo) ∧
    (recordAll twentyTwo).bundles.len = 22 ∧ "a" ∉ (recordAll twentyTwo).earlier ∧
    ((recordAll twentyTwo).get "a").isSome = true := by
  have len : (recordAll twentyTwo).bundles.len = 22 := by decide
  refine ⟨by decide,?_,len,by decide,by decide⟩
  intro kept
  have bounded := kept.bounded
  rw [len] at bounded
  exact absurd bounded (by decide)

end ReverseProxy.BundleHistory
