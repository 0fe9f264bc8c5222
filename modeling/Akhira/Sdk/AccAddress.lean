import Akhira.Base.Bech32
import Akhira.Sdk.Bank

/-!
# Account addresses as texts

The bech32 text of an account address has the configured prefix as its readable part.
-/
namespace Akhira.Sdk

open Akhira.Base

/-- `AccAddress.String` under a configured prefix. -/
def accAddressBytes (accountPrefix : List UInt8) (account : AccAddress) : List UInt8 :=
  Bech32.encode accountPrefix account

/-- `VerifyAddressFormat`. -/
def verifyAddressFormat (bytes : List UInt8) : Bool :=
  decide (bytes ≠ []) && decide (bytes.length ≤ 255)

/-- `sdk.AccAddressFromBech32` under a configured prefix. A text of blanks only has no readable
part and is refused as such. -/
def accAddressFromBytes (accountPrefix text : List UInt8) : Option AccAddress := do
  let (readable, bytes) ← Bech32.decode 1023 text
  guard (readable = accountPrefix)
  guard (verifyAddressFormat bytes)
  pure bytes

/-- The texts of the chain are those of a prefix. -/
def Chain.ReadsBech32 (chain : Chain) (accountPrefix : List UInt8) : Prop :=
  ∀ text, chain.accAddressFromBech32 text =
    accAddressFromBytes accountPrefix text.toUTF8.data.toList

end Akhira.Sdk
