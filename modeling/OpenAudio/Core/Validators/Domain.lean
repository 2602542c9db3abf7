import OpenAudio.Lib.Framing
import OpenAudio.Lib.Protobuf
import OpenAudio.Core.Registration

/-!
# The domain of a validator attestation

Once the domain is enforced, peers sign an attestation behind a marker, the chain and the name of the
message. The length of the chain id and the zero after the name cut these fields out again, and the
zero in front is not the tag of a protobuf field.
-/

namespace OpenAudio.Core

theorem length_bigEndian64 (n : Int) : (bigEndian64 n).length = 8 := by simp [bigEndian64]

theorem bigEndian64_eq_reverse {n : Nat} (hn : n < 2 ^ 64) :
    bigEndian64 n = (littleEndian 8 n).reverse := by
  have hmod : ((n : Int) % 2 ^ 64).toNat = n := by omega
  rw [littleEndian_eq_map, ← List.map_reverse, bigEndian64, hmod]

theorem bigEndian64_injective {m n : Nat} (hm : m < 2 ^ 64) (hn : n < 2 ^ 64)
    (h : bigEndian64 m = bigEndian64 n) : m = n := by
  rw [bigEndian64_eq_reverse hm, bigEndian64_eq_reverse hn, List.reverse_inj] at h
  exact littleEndian_injective hm hn h

theorem AttestationBody.zero_not_mem_fullName (body : AttestationBody) : 0 ∉ textBytes body.fullName := by
  cases body with
  | validatorRegistration _ =>
    exact (by decide : 0 ∉ textBytes "core.v1.ValidatorRegistration")
  | validatorDeregistration _ =>
    exact (by decide : 0 ∉ textBytes "core.v1.ValidatorDeregistration")

theorem domainSeparatedAttestationBytes_inj {ext ext' : Externals} {chainID chainID' : String}
    {body body' : AttestationBody} (hlen : (textBytes chainID).length < 2 ^ 63)
    (hlen' : (textBytes chainID').length < 2 ^ 63)
    (h : domainSeparatedAttestationBytes ext chainID body =
      domainSeparatedAttestationBytes ext' chainID' body') :
    chainID = chainID' ∧ body.fullName = body'.fullName ∧
      ext.marshal (.attestationBody body) = ext'.marshal (.attestationBody body') := by
  unfold domainSeparatedAttestationBytes at h
  simp only [List.cons_append, List.append_assoc, List.cons.injEq, true_and] at h
  have h := (List.cons.inj (List.append_cancel_left h)).2
  obtain ⟨hlength, h⟩ := List.append_inj h (by rw [length_bigEndian64, length_bigEndian64])
  have hlength := bigEndian64_injective (by omega) (by omega) hlength
  obtain ⟨hchain, h⟩ := List.append_inj h hlength
  obtain ⟨hname, hpayload⟩ :=
    terminated_inj body.zero_not_mem_fullName body'.zero_not_mem_fullName h
  exact ⟨textBytes_injective hchain, textBytes_injective hname, hpayload⟩

namespace Server

theorem validatorAttestationBytes_eq_ok {s : Server} {body : AttestationBody} {height : Int}
    {b : Bytes} (henforced : (s.rules height).attestationDomainEnforced = true)
    (h : s.validatorAttestationBytes body height = .ok b) :
    b = domainSeparatedAttestationBytes s.ext s.config.chainID body := by
  unfold validatorAttestationBytes at h
  rw [if_neg (by simp [henforced])] at h
  split at h
  · cases h
  · exact (Except.ok.inj h).symm

/-- Signed bytes are those of one chain, one kind of message and one serialized body, and are not
the fields of any message. The lengths are those of Go strings, and `proto.Marshal` writes fields
that can be read. -/
theorem validatorAttestationBytes_separated {s s' : Server} {body body' : AttestationBody}
    {height height' : Int} {b b' : Bytes}
    (henforced : (s.rules height).attestationDomainEnforced = true)
    (henforced' : (s'.rules height').attestationDomainEnforced = true)
    (hlen : (textBytes s.config.chainID).length < 2 ^ 63)
    (hlen' : (textBytes s'.config.chainID).length < 2 ^ 63)
    (hwire : ∀ m, (Protobuf.parseFields (s.ext.marshal m)).isSome = true)
    (hb : s.validatorAttestationBytes body height = .ok b)
    (hb' : s'.validatorAttestationBytes body' height' = .ok b') :
    (b = b' → s.config.chainID = s'.config.chainID ∧ body.fullName = body'.fullName ∧
      s.ext.marshal (.attestationBody body) = s'.ext.marshal (.attestationBody body')) ∧
    Protobuf.parseFields b = none ∧ ∀ m, b ≠ s.ext.marshal m := by
  have heq := validatorAttestationBytes_eq_ok henforced hb
  have heq' := validatorAttestationBytes_eq_ok henforced' hb'
  have hnone : Protobuf.parseFields b = none := by
    rw [heq]
    exact Protobuf.parseFields_zero_cons _
  refine ⟨?_, hnone, ?_⟩
  · intro h
    rw [heq, heq'] at h
    exact domainSeparatedAttestationBytes_inj hlen hlen' h
  · intro m h
    have hsome := hwire m
    rw [← h, hnone] at hsome
    cases hsome

def firstDeregistration : ValidatorDeregistration :=
  { cometAddress := "21FE31DFA154A261626BF854046FD2271B7BED4B", deadline := 5 }

def deregistrationNode : Server :=
  devnet
    { marshal := [(.attestationBody (.validatorDeregistration firstDeregistration),
        Protobuf.stringField 1 firstDeregistration.cometAddress ++
          Protobuf.int64Field 3 firstDeregistration.deadline)] } Db.empty

def otherChainNode : Server :=
  { deregistrationNode with
    config := { Config.devnet with
      chainID := "audius-devnet", upgrades := some (scheduleForChainID "audius-devnet") } }

theorem deregistrationNode_wire (m : ProtoMessage) :
    (Protobuf.parseFields (deregistrationNode.ext.marshal m)).isSome = true := by
  by_cases hm : m = .attestationBody (.validatorDeregistration firstDeregistration)
  · subst hm
    decide +kernel
  · have hlookup : deregistrationNode.ext.marshal m = [] := by
      change ((List.lookup m [_]).getD []) = []
      rw [List.lookup_cons, beq_eq_false_iff_ne.mpr hm]
      rfl
    rw [hlookup]
    rfl

/-- The two chains sign the deregistration differently. -/
theorem deregistration_chains_separated :
    ∃ b b', deregistrationNode.validatorAttestationBytes
        (.validatorDeregistration firstDeregistration) 1 = .ok b ∧
      otherChainNode.validatorAttestationBytes
        (.validatorDeregistration firstDeregistration) 1 = .ok b' ∧ b ≠ b' := by
  obtain ⟨b, hb⟩ : ∃ b, deregistrationNode.validatorAttestationBytes
      (.validatorDeregistration firstDeregistration) 1 = .ok b := ⟨_, rfl⟩
  obtain ⟨b', hb'⟩ : ∃ b, otherChainNode.validatorAttestationBytes
      (.validatorDeregistration firstDeregistration) 1 = .ok b := ⟨_, rfl⟩
  refine ⟨b, b', hb, hb', ?_⟩
  intro h
  obtain ⟨hinj, _⟩ := validatorAttestationBytes_separated (by decide) (by decide) (by decide)
    (by decide) deregistrationNode_wire hb hb'
  exact absurd (hinj h).1 (by decide)

end Server

end OpenAudio.Core
