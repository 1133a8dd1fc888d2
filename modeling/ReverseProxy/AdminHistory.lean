import ReverseProxy.SignedBundle

/-! admin.Store: the bundles that were applied, by version, and the versions that were
current before. An operation is one step under the lock. -/
namespace ReverseProxy.AdminHistory
open FiniteMap SignedBundle

def bundleHistoryLimit : Nat := 20

structure Store where
  current : String := ""
  earlier : List String := []
  bundles : Table String Bundle := {}

namespace Store

def record (s : Store) (entry : Bundle) : Store :=
  if entry.info.version = "" then s
  else
    { current := entry.info.version
      earlier := if s.current ≠ "" ∧ s.current ≠ entry.info.version then (s.current :: s.earlier).take bundleHistoryLimit
        else s.earlier
      bundles := s.bundles.insert entry.info.version entry }

def get (s : Store) (version : String) : Option Bundle := s.bundles.get version

def latest (s : Store) : Option Bundle := if s.current = "" then none else s.bundles.get s.current

def previous (s : Store) : Option Bundle :=
  match s.earlier with
  | [] => none
  | version :: _ => s.bundles.get version

theorem recordGet {s : Store} {entry b : Bundle} {version : String} (found : (s.record entry).bundles.get version = some b) :
    b = entry ∨ s.bundles.get version = some b := by
  unfold record at found
  split at found
  · exact .inr found
  · rw [Table.getInsert] at found
    split at found
    · exact .inl (Option.some.inj found).symm
    · exact .inr found

theorem previousGet {s : Store} {b : Bundle} (found : s.previous = some b) : ∃ version, s.bundles.get version = some b := by
  unfold previous at found
  split at found
  · cases found
  · exact ⟨_,found⟩

end Store
end ReverseProxy.AdminHistory
