import Akhira.Base.Store

/-!
# Custody of what records claim

A custodian keeps one balance for each kind of asset, and every record of a store claims
some amount of each kind. The custodian covers the store when no kind is claimed in
total beyond the balance. Writing, replacing and dropping a record keep the cover under
a condition on that record and the change of the balances alone.
-/
namespace Akhira.Base

variable {κ ν δ : Type} [LinearOrder κ] {claim : ν → δ → Nat} {store : Store κ ν}
  {balance later : δ → Nat} {key : κ}

/-- No kind of asset is claimed beyond its balance. -/
def Covers (claim : ν → δ → Nat) (store : Store κ ν) (balance : δ → Nat) : Prop :=
  ∀ kind, (store.total fun _ value => claim value kind) ≤ balance kind

namespace Covers

/-- Any balance covers a store without records. -/
theorem empty : Covers claim (Store.empty : Store κ ν) balance := by
  intro kind
  exact Nat.zero_le _

/-- Each record's own claim is covered. -/
theorem claim_le (covers : Covers claim store balance) {value : ν}
    (found : store.get key = some value) (kind : δ) : claim value kind ≤ balance kind := by
  have total := store.total_of_get (fun _ value => claim value kind) found
  have bound := covers kind
  omega

/-- A new record is covered when the balances grow by its claim. -/
theorem insert (covers : Covers claim store balance) {value : ν} (missing : store.get key = none)
    (paid : ∀ kind, balance kind + claim value kind ≤ later kind) :
    Covers claim (store.set key value) later := by
  intro kind
  rw [store.total_insert (fun _ value => claim value kind) value missing]
  have bound := covers kind
  have grown := paid kind
  omega

/-- A record may be replaced when its claim grows by no more than the balances do. -/
theorem replace (covers : Covers claim store balance) {old new : ν}
    (found : store.get key = some old)
    (paid : ∀ kind, balance kind + claim new kind ≤ later kind + claim old kind) :
    Covers claim (store.set key new) later := by
  intro kind
  have total := store.total_replace (fun _ value => claim value kind) new found
  have bound := covers kind
  have grown := paid kind
  omega

/-- A record may be dropped when the balances lose no more than its claim. -/
theorem remove (covers : Covers claim store balance) {value : ν} (found : store.get key = some value)
    (paid : ∀ kind, balance kind ≤ later kind + claim value kind) :
    Covers claim (store.delete key) later := by
  intro kind
  have total := store.total_of_get (fun _ value => claim value kind) found
  have bound := covers kind
  have lost := paid kind
  omega

end Covers

end Akhira.Base
