/-! Resources numbered in the order of their making, each in one place: held by its owner,
taken out by somebody who is to close it, or closed. A ledger is balanced with what is held
if nothing is lost and nothing is in two places. -/
namespace ReverseProxy.Custody

structure Ledger where
  made : Nat := 0
  due : List Nat := []
  closed : List Nat := []
  deriving DecidableEq, Repr

namespace Ledger

def make (l : Ledger) : Ledger := { l with made := l.made + 1 }

def drop (l : Ledger) (gone : List Nat) : Ledger := { l with due := gone ++ l.due }

def close (l : Ledger) (n : Nat) : Option Ledger :=
  if n ∈ l.due then some { l with due := l.due.erase n, closed := n :: l.closed } else none

def settle (l : Ledger) (n : Nat) : Ledger := { l with closed := n :: l.closed }

end Ledger

def Balances (held : List Nat) (l : Ledger) : Prop := (held ++ (l.due ++ l.closed)).Perm (List.range l.made)

section
variable {held other : List Nat} {l : Ledger}

theorem balancedEmpty : Balances [] {} := .refl _

theorem Balances.perm (balanced : Balances held l) (perm : held.Perm other) : Balances other l :=
  (perm.symm.append_right _).trans balanced

theorem Balances.make (balanced : Balances held l) : Balances (l.made :: held) l.make := by
  unfold Balances Ledger.make
  rw [List.range_succ]
  exact (balanced.cons l.made).trans (List.perm_append_singleton _ _).symm

theorem Balances.drop {gone : List Nat} (balanced : Balances (gone ++ held) l) : Balances held (l.drop gone) := by
  refine .trans ?_ balanced
  unfold Ledger.drop
  dsimp only
  rw [List.append_assoc, List.append_assoc gone held, ← List.append_assoc held gone, ← List.append_assoc gone held]
  exact List.perm_append_comm.append_right _

theorem Balances.close {n : Nat} {l' : Ledger} (balanced : Balances held l) (closed : l.close n = some l') : Balances held l' := by
  unfold Ledger.close at closed
  split at closed
  · rename_i due
    cases closed
    refine .trans (List.Perm.append_left held ?_) balanced
    have back : (n :: l.due.erase n).Perm l.due := (List.perm_cons_erase due).symm
    exact List.perm_middle.trans (back.append_right l.closed)
  · cases closed

theorem Balances.settle {n : Nat} (balanced : Balances (n :: held) l) : Balances held (l.settle n) := by
  refine .trans ?_ balanced
  unfold Ledger.settle
  dsimp only
  rw [← List.append_assoc, List.cons_append, ← List.append_assoc]
  exact List.perm_middle

theorem Balances.apart (balanced : Balances held l) : (held ++ (l.due ++ l.closed)).Nodup :=
  balanced.nodup_iff.mpr List.nodup_range

end
end ReverseProxy.Custody
