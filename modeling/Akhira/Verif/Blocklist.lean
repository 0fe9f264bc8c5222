import Akhira.Base.IndexedList
import Akhira.Base.Run
import Akhira.Contracts.Blocklist

/-!
# The blocklist lists what was added and not removed

The index of every listed address is its position, whatever the index says of other addresses. Every
call keeps this, so each access to the list is within its bounds.
-/
namespace Akhira.Verif.Contracts

open Akhira.Base Akhira.Contracts

/-- Every listed address stands at its index. -/
def InOrder (blocklist : Blocklist) : Prop :=
  Indexed blocklist.userList fun account => (blocklist.userIndex account).toNat

/-- A call stays within the bounds of the list; what it leaves is in order and lists the accounts of
a given kind. -/
def Leaves (listed : Address → Prop) : Revertible Blocklist → Prop
  | .ok next => InOrder next ∧ ∀ account, account ∈ next.userList ↔ listed account
  | .error reason => reason ≠ invalidOpcode

/-- Writing a place into the mapping updates the place of that account only. -/
theorem toNat_write (mapping : Address → Word) (key : Address) (value : Word) :
    (fun account => (write mapping key value account).toNat) =
      Function.update (fun account => (mapping account).toNat) key value.toNat := by
  funext account
  by_cases same : account = key
  · rw [same, write_same, Function.update_self]
  · rw [write_other _ _ same, Function.update_of_ne same]

section Calls

variable {blocklist : Blocklist} {sender account : Address}

/-- There are fewer addresses than words. -/
theorem InOrder.length_toNat (inOrder : InOrder blocklist) :
    blocklist.length.toNat = blocklist.userList.length := by
  have few : blocklist.userList.length ≤ 2 ^ 160 := by
    have bound := inOrder.nodup.length_le_card
    rwa [← FinEnum.card_eq_fintypeCard, FinEnum.card_bitVec] at bound
  rw [Blocklist.length, BitVec.toNat_ofNat]
  apply Nat.mod_eq_of_lt
  omega

/-- In order, an account is blocked exactly when it is listed. -/
theorem isBlocklisted_eq (inOrder : InOrder blocklist) (account : Address) :
    blocklist.isBlocklisted account = .ok (decide (account ∈ blocklist.userList)) := by
  have long := inOrder.length_toNat
  unfold Blocklist.isBlocklisted
  split
  · rename_i zero
    rw [zero] at long
    have empty : blocklist.userList = [] := List.length_eq_zero_iff.mp long.symm
    rw [empty]
    rfl
  · split
    · rename_i outside
      rw [long] at outside
      have absent : account ∉ blocklist.userList := by
        rw [inOrder.mem_iff, List.getElem?_eq_none outside]
        nofun
      rw [decide_eq_false absent]
      rfl
    · rename_i inside
      have bound : (blocklist.userIndex account).toNat < blocklist.userList.length := by omega
      have found := List.getElem?_eq_getElem bound
      rw [Blocklist.userAt, found]
      have same : account ∈ blocklist.userList ↔
          blocklist.userList[(blocklist.userIndex account).toNat] = account := by
        rw [inOrder.mem_iff, found, Option.some.injEq]
      rw [decide_eq_decide.mpr same]
      rfl

/-- A listed account is refused. -/
theorem add_refused (inOrder : InOrder blocklist) (listed : account ∈ blocklist.userList) :
    blocklist.addToBlocklistInternal sender account = .error "Already in blocklist" := by
  rw [Blocklist.addToBlocklistInternal, isBlocklisted_eq inOrder, decide_eq_true listed]
  rfl

/-- A new account is listed, and nothing else changes. -/
theorem add_listed (inOrder : InOrder blocklist) (absent : account ∉ blocklist.userList) :
    ∃ next, blocklist.addToBlocklistInternal sender account = .ok (next, true) ∧ InOrder next ∧
      ∀ other, other ∈ next.userList ↔ other = account ∨ other ∈ blocklist.userList := by
  refine ⟨{ blocklist with
      userIndex := write blocklist.userIndex account blocklist.length
      userList := blocklist.userList ++ [account]
      events := blocklist.events ++ [.addedToBlocklist account sender] }, ?_, ?_, fun other => ?_⟩
  · rw [Blocklist.addToBlocklistInternal, isBlocklisted_eq inOrder, decide_eq_false absent]
    rfl
  · unfold InOrder
    rw [toNat_write, inOrder.length_toNat]
    exact inOrder.concat absent
  · rw [List.mem_append, List.mem_singleton, or_comm]

/-- An account that is not listed cannot be taken off. -/
theorem remove_refused (inOrder : InOrder blocklist) (absent : account ∉ blocklist.userList) :
    blocklist.removeFromBlocklistInternal sender account = .error "Not in blocklist" := by
  rw [Blocklist.removeFromBlocklistInternal, isBlocklisted_eq inOrder, decide_eq_false absent]
  rfl

/-- A listed account is taken off, and nothing else changes. -/
theorem remove_listed (inOrder : InOrder blocklist) (listed : account ∈ blocklist.userList) :
    ∃ next, blocklist.removeFromBlocklistInternal sender account = .ok (next, true) ∧
      InOrder next ∧
      ∀ other, other ∈ next.userList ↔ other ∈ blocklist.userList ∧ other ≠ account := by
  have filled : 0 < blocklist.userList.length := List.length_pos_of_mem listed
  have long := inOrder.length_toNat
  have bound : (blocklist.userIndex account).toNat < blocklist.userList.length :=
    (List.getElem?_eq_some_iff.mp (inOrder.mem_iff.mp listed)).1
  obtain ⟨last, final⟩ : ∃ last, blocklist.userList.getLast? = some last :=
    Option.isSome_iff_exists.mp (by simpa using List.ne_nil_of_mem listed)
  have lastRow : (blocklist.length - 1).toNat = blocklist.userList.length - 1 := by
    rw [BitVec.toNat_sub_of_le (by rw [BitVec.le_def, long]; exact filled), long]
    rfl
  have moved : blocklist.userAt (blocklist.length - 1) = .ok last := by
    rw [Blocklist.userAt, lastRow, ← List.getLast?_eq_getElem?, final]
  refine ⟨{ blocklist with
      userIndex := write blocklist.userIndex last (blocklist.userIndex account)
      userList := swapRemove blocklist.userList (blocklist.userIndex account).toNat last
      events := blocklist.events ++ [.removedFromBlocklist account sender] }, ?_, ?_, fun other => ?_⟩
  · rw [Blocklist.removeFromBlocklistInternal, isBlocklisted_eq inOrder, decide_eq_true listed]
    simp only [Result.bind_ok, Revertible.require_ok, Result.pure_ok]
    refine ⟨true, rfl, (), rfl, last, moved, _, if_pos bound, rfl⟩
  · unfold InOrder
    rw [toNat_write]
    exact inOrder.remove listed final
  · exact inOrder.mem_swapRemove listed final

end Calls

section Batches

variable {blocklist : Blocklist} {sender : Address} {listed final : Address → Prop}
  {call : Revertible Blocklist} {rest : Blocklist → Revertible Blocklist}

/-- What one call leaves may be used by the calls after it. -/
theorem Leaves.bind (first : Leaves listed call)
    (later : ∀ next, InOrder next → (∀ account, account ∈ next.userList ↔ listed account) →
      Leaves final (rest next)) : Leaves final (call >>= rest) := by
  cases call with
  | ok next => exact later next first.1 first.2
  | error reason => exact first

/-- A set of accounts may be described in another way. -/
theorem Leaves.congr (leaves : Leaves listed call)
    (same : ∀ account, listed account ↔ final account) : Leaves final call := by
  cases call with
  | ok next => exact ⟨leaves.1, fun account => (leaves.2 account).trans (same account)⟩
  | error reason => exact leaves

/-- Only the owner gets through. -/
theorem Leaves.onlyOwner (leaves : Leaves listed call) :
    Leaves listed (blocklist.onlyOwner sender >>= fun _ => call) := by
  unfold Blocklist.onlyOwner Revertible.require
  split
  · exact leaves
  · exact (by decide : "Ownable: caller is not the owner" ≠ invalidOpcode)

/-- Adding an account that is required to be new leaves it listed. -/
theorem add_leaves (inOrder : InOrder blocklist) (account : Address) :
    Leaves (fun other => other = account ∨ other ∈ blocklist.userList)
      (Blocklist.requiring Blocklist.addToBlocklistInternal sender blocklist account) := by
  unfold Blocklist.requiring
  by_cases known : account ∈ blocklist.userList
  · rw [add_refused inOrder known]
    exact (by decide : "Already in blocklist" ≠ invalidOpcode)
  · obtain ⟨next, added, ordered, members⟩ := @add_listed _ sender _ inOrder known
    rw [added]
    exact ⟨ordered, members⟩

/-- Removing an account that is required to be listed leaves it off. -/
theorem remove_leaves (inOrder : InOrder blocklist) (account : Address) :
    Leaves (fun other => other ∈ blocklist.userList ∧ other ≠ account)
      (Blocklist.requiring Blocklist.removeFromBlocklistInternal sender blocklist account) := by
  unfold Blocklist.requiring
  by_cases known : account ∈ blocklist.userList
  · obtain ⟨next, removed, ordered, members⟩ := @remove_listed _ sender _ inOrder known
    rw [removed]
    exact ⟨ordered, members⟩
  · rw [remove_refused inOrder known]
    exact (by decide : "Not in blocklist" ≠ invalidOpcode)

/-- Both calls return true when they return. -/
theorem requiring_eq {call : Blocklist → Address → Address → Revertible (Blocklist × Bool)}
    {account : Address} (returns : ∀ result, call blocklist sender account = .ok result →
      result.2 = true) : Blocklist.requiring call sender blocklist account =
        call blocklist sender account >>= fun result => pure result.1 := by
  unfold Blocklist.requiring
  cases called : call blocklist sender account with
  | ok result =>
    change (Revertible.require (result.2 = true) "" >>= fun _ => pure result.1) = _
    rw [Revertible.require, if_pos (returns result called)]
    rfl
  | error reason => rfl

/-- Adding a batch leaves every account of it listed. -/
theorem batchAdd_leaves (inOrder : InOrder blocklist) (accounts : List Address) :
    Leaves (fun other => other ∈ accounts ∨ other ∈ blocklist.userList)
      (accounts.foldlM (Blocklist.requiring Blocklist.addToBlocklistInternal sender) blocklist) := by
  induction accounts generalizing blocklist with
  | nil => exact ⟨inOrder, fun other => by simp⟩
  | cons account others ih =>
    rw [List.foldlM_cons]
    refine (add_leaves inOrder account).bind fun next ordered members => ?_
    refine (ih ordered).congr fun other => ?_
    rw [members, List.mem_cons]
    tauto

/-- Removing a batch leaves every account of it off. -/
theorem batchRemove_leaves (inOrder : InOrder blocklist) (accounts : List Address) :
    Leaves (fun other => other ∈ blocklist.userList ∧ other ∉ accounts)
      (accounts.foldlM (Blocklist.requiring Blocklist.removeFromBlocklistInternal sender)
        blocklist) := by
  induction accounts generalizing blocklist with
  | nil => exact ⟨inOrder, fun other => by simp⟩
  | cons account others ih =>
    rw [List.foldlM_cons]
    refine (remove_leaves inOrder account).bind fun next ordered members => ?_
    refine (ih ordered).congr fun other => ?_
    rw [members, List.mem_cons]
    tauto

end Batches

section Runs

/-- The accounts an action adds. -/
def addedBy : BlocklistAction → List Address
  | .addToBlocklist account => [account]
  | .batchAddToBlocklist accounts => accounts
  | .removeFromBlocklist _ | .batchRemoveFromBlocklist _ => []

/-- The accounts an action removes. -/
def removedBy : BlocklistAction → List Address
  | .removeFromBlocklist account => [account]
  | .batchRemoveFromBlocklist accounts => accounts
  | .addToBlocklist _ | .batchAddToBlocklist _ => []

/-- A call was carried out and added an account. -/
def Adds (account : Address) (transition : Transition Blocklist BlocklistCall) : Prop :=
  executeBlocklist transition.before transition.message = .ok transition.after ∧
    account ∈ addedBy transition.message.action

/-- A call was carried out and removed an account. -/
def Removes (account : Address) (transition : Transition Blocklist BlocklistCall) : Prop :=
  executeBlocklist transition.before transition.message = .ok transition.after ∧
    account ∈ removedBy transition.message.action

variable {blocklist : Blocklist}

/-- Every call leaves what it adds and what it does not remove. -/
theorem executeBlocklist_leaves (inOrder : InOrder blocklist) (call : BlocklistCall) :
    Leaves (fun account => account ∈ addedBy call.action ∨
        account ∈ blocklist.userList ∧ account ∉ removedBy call.action)
      (executeBlocklist blocklist call) := by
  obtain ⟨sender, action⟩ := call
  cases action with
  | addToBlocklist account =>
    have leaves := @add_leaves _ sender inOrder account
    rw [requiring_eq] at leaves
    · change Leaves _ ((blocklist.onlyOwner sender >>= fun _ =>
        blocklist.addToBlocklistInternal sender account) >>= fun result => pure result.1)
      rw [bind_assoc]
      refine Leaves.onlyOwner (leaves.congr fun other => ?_)
      simp [addedBy, removedBy]
    · intro result returned
      simp only [Blocklist.addToBlocklistInternal, Result.bind_ok, Result.pure_ok] at returned
      obtain ⟨-, -, -, -, rfl⟩ := returned
      rfl
  | batchAddToBlocklist accounts =>
    refine Leaves.onlyOwner ((batchAdd_leaves inOrder accounts).congr fun account => ?_)
    simp [addedBy, removedBy]
  | removeFromBlocklist account =>
    have leaves := @remove_leaves _ sender inOrder account
    rw [requiring_eq] at leaves
    · change Leaves _ ((blocklist.onlyOwner sender >>= fun _ =>
        blocklist.removeFromBlocklistInternal sender account) >>= fun result => pure result.1)
      rw [bind_assoc]
      refine Leaves.onlyOwner (leaves.congr fun other => ?_)
      simp [addedBy, removedBy]
    · intro result returned
      simp only [Blocklist.removeFromBlocklistInternal, Result.bind_ok, Result.pure_ok] at returned
      obtain ⟨-, -, -, -, -, -, -, -, rfl⟩ := returned
      rfl
  | batchRemoveFromBlocklist accounts =>
    refine Leaves.onlyOwner ((batchRemove_leaves inOrder accounts).congr fun account => ?_)
    simp [addedBy, removedBy]

/-- A call keeps the list and its mapping in order, also when it is reverted. -/
theorem attempt_inOrder (inOrder : InOrder blocklist) (call : BlocklistCall) :
    InOrder (attempt executeBlocklist blocklist call) := by
  have leaves := executeBlocklist_leaves inOrder call
  cases executed : executeBlocklist blocklist call with
  | ok next =>
    rw [executed] at leaves
    rw [attempt_ok executed]
    exact leaves.1
  | error reason =>
    rw [attempt_error executed]
    exact inOrder

/-- A call that is carried out lists what it adds and what it does not remove. -/
theorem attempt_mem (inOrder : InOrder blocklist) (call : BlocklistCall) (account : Address) :
    account ∈ (attempt executeBlocklist blocklist call).userList ↔
      Adds account ⟨blocklist, call, attempt executeBlocklist blocklist call⟩ ∨
        account ∈ blocklist.userList ∧
          ¬ Removes account ⟨blocklist, call, attempt executeBlocklist blocklist call⟩ := by
  have leaves := executeBlocklist_leaves inOrder call
  cases executed : executeBlocklist blocklist call with
  | ok next =>
    rw [executed] at leaves
    rw [attempt_ok executed, leaves.2]
    simp only [Adds, Removes, executed, true_and]
  | error reason =>
    rw [attempt_error executed]
    simp [Adds, Removes, executed]

/-- After any calls the list has no duplicates, the membership test is exact, the listed addresses
are those added and not since removed, and no call reads beyond the end of the list. -/
theorem blocklist_exact (owner : Address) (calls : List BlocklistCall) :
    (run executeBlocklist (.deployed owner) calls).getFullList.Nodup ∧
      (∀ account, (run executeBlocklist (.deployed owner) calls).isBlocklisted account =
        .ok (decide (account ∈ (run executeBlocklist (.deployed owner) calls).getFullList))) ∧
      (∀ account, account ∈ (run executeBlocklist (.deployed owner) calls).getFullList ↔
        ∃ earlier transition later,
          transitions executeBlocklist (.deployed owner) calls = earlier ++ transition :: later ∧
          Adds account transition ∧ ∀ other ∈ later, ¬ Removes account other) ∧
      ∀ call, executeBlocklist (run executeBlocklist (.deployed owner) calls) call ≠
        .error invalidOpcode := by
  have start : InOrder (.deployed owner) := Indexed.nil
  have inOrder : InOrder (run executeBlocklist (.deployed owner) calls) :=
    @attempt_invariant _ _ _ executeBlocklist (fun _ _ => True) InOrder
      (fun _ call inOrder _ => attempt_inOrder inOrder call) _ start _
      (meets_of_forall (fun _ _ => trivial) _ calls)
  refine ⟨inOrder.nodup, isBlocklisted_eq inOrder, fun account => ?_, fun call outside => ?_⟩
  · have history := @run_holds_iff _ _ _ executeBlocklist InOrder
      (fun blocklist => account ∈ blocklist.userList) (Adds account) (Removes account)
      (fun _ call inOrder => attempt_inOrder inOrder call)
      (fun _ call inOrder => attempt_mem inOrder call account) _ start calls
    refine history.trans (or_iff_left ?_)
    rintro ⟨listed, -⟩
    cases listed
  · have leaves := executeBlocklist_leaves inOrder call
    rw [outside] at leaves
    exact leaves rfl

-- the flow of the contract's own tests: two removals and two additions after a batch
example : (run executeBlocklist (.deployed 9) [⟨9, .batchAddToBlocklist [1, 2, 3]⟩,
    ⟨9, .removeFromBlocklist 2⟩, ⟨9, .removeFromBlocklist 1⟩, ⟨9, .addToBlocklist 2⟩,
    ⟨9, .addToBlocklist 1⟩]).getFullList = [3, 2, 1] := by
  decide +kernel

end Runs

end Akhira.Verif.Contracts
