import OpenAudio.Lib.GoText

/-!
# Node configuration and the upgrade schedule

The ruleset of a height is what consensus code branches on; `RulesetAt` resolves it from the
activation heights of the chain the node is on.
-/

namespace OpenAudio.Core

/-- Activation heights; zero means never. -/
structure UpgradeSchedule where
  attestationDomainHeight : Int := 0
  authEnforcementHeight : Int := 0
  contentAuthEnforcementHeight : Int := 0
  contentAuthStrictHeight : Int := 0
  legacyRegistrationClosedHeight : Int := 0
deriving DecidableEq, Repr

/-- The rules in force at a height. -/
structure Rules where
  attestationDomainEnforced : Bool := false
  authEnforced : Bool := false
  contentAuthEnforced : Bool := false
  contentAuthStrict : Bool := false
  legacyRegistrationClosed : Bool := false
deriving DecidableEq, Repr

def activeAt (activation height : Int) : Bool := activation != 0 && decide (activation ≤ height)

/-- `RulesetAt`; a missing schedule activates nothing. -/
def rulesetAt (schedule : Option UpgradeSchedule) (height : Int) : Rules :=
  match schedule with
  | none => {}
  | some u =>
    { attestationDomainEnforced := activeAt u.attestationDomainHeight height
      authEnforced := activeAt u.authEnforcementHeight height
      contentAuthEnforced := activeAt u.contentAuthEnforcementHeight height
      contentAuthStrict := activeAt u.contentAuthStrictHeight height
      legacyRegistrationClosed := activeAt u.legacyRegistrationClosedHeight height }

def scheduleForChainID (chainID : String) : UpgradeSchedule :=
  if chainID = "openaudio-devnet" ∨ chainID = "audius-devnet" then
    { attestationDomainHeight := 1
      authEnforcementHeight := 1
      contentAuthEnforcementHeight := 1
      contentAuthStrictHeight := 1
      legacyRegistrationClosedHeight := 1 }
  else if chainID = "audius-mainnet-alpha-beta" then { legacyRegistrationClosedHeight := 35005210 }
  else if chainID = "audius-mainnet-beta" then
    { authEnforcementHeight := 1
      contentAuthEnforcementHeight := 1
      legacyRegistrationClosedHeight := 1 }
  else {}

/-- The settings consensus code reads. -/
structure Config where
  /-- `GenesisFile.ChainID` -/
  chainID : String
  upgrades : Option UpgradeSchedule
  slaRollupInterval : Int
  validatorVotingPower : Int
  acdcEntityManagerAddress : String
  acdcChainID : Nat
  attRegistrationMin : Int
  attRegistrationRSize : Int
  attDeregistrationMin : Int
  attDeregistrationRSize : Int
  programmableDistributionEnabled : Bool
  /-- `AudioRewardsManagerPubkey()` for the runtime environment -/
  audioRewardsManagerPubkey : String

def Config.rules (c : Config) (height : Int) : Rules := rulesetAt c.upgrades height

def Config.devnet : Config where
  chainID := "openaudio-devnet"
  upgrades := some (scheduleForChainID "openaudio-devnet")
  slaRollupInterval := 16
  validatorVotingPower := 25
  acdcEntityManagerAddress := "0x254dffcd3277C0b1660F6d42EFbB754edaBAbC2B"
  acdcChainID := 1337
  attRegistrationMin := 5
  attRegistrationRSize := 15
  attDeregistrationMin := 5
  attDeregistrationRSize := 15
  programmableDistributionEnabled := true
  audioRewardsManagerPubkey := "DJPzVothq58SmkpRb1ATn5ddN2Rpv1j2TcGvM3XsHf1c"

end OpenAudio.Core
