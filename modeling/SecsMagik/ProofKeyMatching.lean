import Mathlib.Data.List.Lex
import Mathlib.Data.List.Sort
import Mathlib.Data.Prod.Lex
import SecsMagik.ProofKeys
import SecsMagik.Utf8
import SecsMagik.WireCodec

/-! # Matching proof metadata

A registry is built from entries that differ in proof system, circuit, key id or key version, and is
searched by key id and key version alone, in the order of all four.
-/
namespace ProofKeys

open RustStd
open CallContext (ObservedProofMetadata)
open WireCodec (rejectIf rejectIf_eq_ok)

/-! ## Building a registry -/

/-- What entries must differ in. -/
def ProofKeyEntry.lookupKey (e : ProofKeyEntry) : String × String × String × UInt64 :=
  (e.proofSystem, e.circuitId, e.vkId, e.vkVersion)

/-- `str` as it is ordered: by its bytes -/
def textOrder (s : String) : List ℕ := (utf8 s).map UInt8.toNat

/-- The lookup key as it is ordered: field by field -/
def ProofKeyEntry.rank (e : ProofKeyEntry) : List ℕ ×ₗ List ℕ ×ₗ List ℕ ×ₗ ℕ :=
  toLex (textOrder e.proofSystem,
    toLex (textOrder e.circuitId, toLex (textOrder e.vkId, e.vkVersion.toNat)))

theorem textOrder_injective : Function.Injective textOrder :=
  (List.map_injective_iff.mpr fun _ _ => UInt8.toNat_inj.mp).comp utf8_injective

theorem lookupKey_eq_of_rank_eq {a b : ProofKeyEntry} (h : a.rank = b.rank) :
    a.lookupKey = b.lookupKey := by
  simp only [ProofKeyEntry.rank, toLex_inj, Prod.mk.injEq, textOrder_injective.eq_iff,
    UInt64.toNat_inj] at h
  obtain ⟨hsystem, hcircuit, hid, hversion⟩ := h
  rw [ProofKeyEntry.lookupKey, ProofKeyEntry.lookupKey, hsystem, hcircuit, hid, hversion]

def ProofKeyEntry.identityKey (e : ProofKeyEntry) : String × UInt64 := (e.vkId, e.vkVersion)

def checkEntries (entries : List ProofKeyEntry) : Except ProofKeyRegistryError Unit := do
  rejectIf entries.isEmpty .emptyRegistry
  forEnumerated (fun before e => do
    validateEntry e
    rejectIf (e.lookupKey ∈ before.map (·.lookupKey)) .duplicateRegistryEntry) [] entries
  entries.forM fun e => rejectIf (e.supersedes.any fun superseded =>
    (superseded.vkId, superseded.vkVersion) ∉ entries.map (·.identityKey)) .invalidSupersession

theorem checkEntries_eq_ok {entries : List ProofKeyEntry} :
    checkEntries entries = .ok () ↔
      entries ≠ [] ∧ (∀ e ∈ entries, validateEntry e = .ok ()) ∧
        entries.Pairwise (·.lookupKey ≠ ·.lookupKey) ∧
        ∀ e ∈ entries, e.supersedes.all fun superseded =>
          (superseded.vkId, superseded.vkVersion) ∈ entries.map (·.identityKey) := by
  have hloop : forEnumerated (fun before e => do
      validateEntry e
      rejectIf (e.lookupKey ∈ List.map (·.lookupKey) before)
        ProofKeyRegistryError.duplicateRegistryEntry) [] entries = .ok () ↔
      (∀ e ∈ entries, validateEntry e = .ok ()) ∧
        entries.Pairwise (·.lookupKey ≠ ·.lookupKey) := by
    refine forEnumerated_nil_eq_ok fun before e => ?_
    simp only [check_bind_eq_ok, rejectIf_eq_ok, List.mem_map, not_exists, not_and, ne_eq]
  rw [checkEntries, check_bind_eq_ok, check_bind_eq_ok, rejectIf_eq_ok, hloop, forM_eq_ok,
    List.isEmpty_iff, and_assoc]
  refine and_congr_right fun _ => and_congr_right fun _ => and_congr_right fun _ =>
    forall₂_congr fun e _ => ?_
  rw [rejectIf_eq_ok]
  cases e.supersedes <;> simp

theorem checkEntries_perm {entries entries' : List ProofKeyEntry} (h : entries.Perm entries') :
    checkEntries entries = .ok () ↔ checkEntries entries' = .ok () := by
  have hne : entries ≠ [] ↔ entries' ≠ [] := by
    rw [← List.length_pos_iff, ← List.length_pos_iff, h.length_eq]
  rw [checkEntries_eq_ok, checkEntries_eq_ok, hne,
    h.pairwise_iff fun {a b} (hab : a.lookupKey ≠ b.lookupKey) => hab.symm]
  simp only [h.mem_iff, (h.map _).mem_iff]

def ProofKeyRegistry.fromEntries (entries : List ProofKeyEntry) :
    Except ProofKeyRegistryError ProofKeyRegistry :=
  match h : checkEntries entries with
  | .error e => .error e
  | .ok () => .ok ⟨entries.insertionSort (·.rank ≤ ·.rank), fun e he =>
    (checkEntries_eq_ok.mp h).2.1 e ((List.mem_insertionSort _).mp he)⟩

theorem fromEntries_eq_ok {entries : List ProofKeyEntry} {registry : ProofKeyRegistry} :
    ProofKeyRegistry.fromEntries entries = .ok registry ↔
      checkEntries entries = .ok () ∧
        registry.entries = entries.insertionSort (·.rank ≤ ·.rank) := by
  unfold ProofKeyRegistry.fromEntries
  split
  · next e h => simp [h]
  · next h =>
      simp only [h, true_and, Except.ok.injEq]
      constructor
      · rintro rfl
        rfl
      · intro hentries
        cases registry
        cases hentries
        rfl

/-- Entries that differ in their lookup keys are told apart by their ranks. -/
theorem eq_of_rank_eq {entries : List ProofKeyEntry} {a b : ProofKeyEntry}
    (hdistinct : entries.Pairwise (·.lookupKey ≠ ·.lookupKey)) (ha : a ∈ entries)
    (hb : b ∈ entries) (h : a.rank = b.rank) : a = b := by
  have hfound := find?_of_distinct hdistinct ha
  rw [lookupKey_eq_of_rank_eq h, find?_of_distinct hdistinct hb] at hfound
  exact (Option.some.inj hfound).symm

theorem fromEntries_perm {entries entries' : List ProofKeyEntry} {registry : ProofKeyRegistry}
    (hperm : entries.Perm entries') (h : ProofKeyRegistry.fromEntries entries = .ok registry) :
    ProofKeyRegistry.fromEntries entries' = .ok registry := by
  obtain ⟨hcheck, hentries⟩ := fromEntries_eq_ok.mp h
  refine fromEntries_eq_ok.mpr ⟨(checkEntries_perm hperm).mp hcheck, hentries.trans ?_⟩
  have hdistinct := (checkEntries_eq_ok.mp hcheck).2.2.1
  have hsorted := List.pairwise_insertionSort fun a b : ProofKeyEntry => a.rank ≤ b.rank
  refine List.Perm.eq_of_pairwise ?_ (hsorted entries) (hsorted entries')
    ((List.perm_insertionSort _ _).trans (hperm.trans (List.perm_insertionSort _ _).symm))
  intro a b ha hb hab hba
  rw [List.mem_insertionSort] at ha hb
  exact eq_of_rank_eq hdistinct ha (hperm.mem_iff.mpr hb) (le_antisymm hab hba)

/-! ## Searching it -/

/-- The entry and the observed metadata say the same. -/
structure Agrees (e : ProofKeyEntry) (observed : ObservedProofMetadata) : Prop where
  proofSystem : e.proofSystem = observed.proofSystem
  circuitId : e.circuitId = observed.circuitId
  circuitVersion : e.circuitVersion = observed.circuitVersion
  vkId : e.vkId = observed.vkId
  vkVersion : e.vkVersion = observed.vkVersion
  vkFingerprint : e.vkFingerprintAlgorithm = observed.vkFingerprintAlgorithm ∧
    e.vkFingerprint = observed.vkFingerprint
  publicInputSchemaId : e.publicInputSchemaId = observed.publicInputSchemaId
  publicInputSchemaHash :
    e.publicInputSchemaHashAlgorithm = observed.publicInputSchemaHashAlgorithm ∧
      e.publicInputSchemaHash = observed.publicInputSchemaHash

section Matching

variable {entries : List ProofKeyEntry} {registry : ProofKeyRegistry}
  {observed : ObservedProofMetadata} {e : ProofKeyEntry}

theorem matchObserved_eq_ok :
    registry.matchObserved observed = .ok e ↔
      registry.entries.find? (fun e => e.vkId = observed.vkId && e.vkVersion = observed.vkVersion) =
        some e ∧ Agrees e observed := by
  unfold ProofKeyRegistry.matchObserved
  cases hfound : registry.entries.find? (fun e =>
      e.vkId = observed.vkId && e.vkVersion = observed.vkVersion) with
  | none => simp
  | some found =>
    have hkey := List.find?_some hfound
    simp only [Bool.and_eq_true, decide_eq_true_eq] at hkey
    simp only [Option.some.injEq]
    constructor
    · intro h
      split_ifs at h with hsystem hcircuit hprint hschema
      obtain rfl := Except.ok.inj h
      simp only [not_or, not_not] at hsystem hcircuit hprint hschema
      exact ⟨rfl, hsystem, hcircuit.1, hcircuit.2, hkey.1, hkey.2, hprint, hschema.1, hschema.2⟩
    · rintro ⟨rfl, hagrees⟩
      simp [hagrees.proofSystem, hagrees.circuitId, hagrees.circuitVersion,
        hagrees.vkFingerprint, hagrees.publicInputSchemaId, hagrees.publicInputSchemaHash]

theorem rank_le_of_find? {es : List ProofKeyEntry} {p : ProofKeyEntry → Bool}
    (hsorted : es.Pairwise (·.rank ≤ ·.rank)) (hfound : es.find? p = some e) :
    ∀ e' ∈ es, p e' → e.rank ≤ e'.rank := by
  obtain ⟨-, before, after, rfl, hbefore⟩ := List.find?_eq_some_iff_append.mp hfound
  intro e' hmem he'
  rcases List.mem_append.mp hmem with hmem | hmem
  · have hnot := hbefore e' hmem
    rw [he'] at hnot
    cases hnot
  · rcases List.mem_cons.mp hmem with rfl | hmem
    · exact le_refl _
    · exact List.rel_of_pairwise_cons (List.pairwise_append.mp hsorted).2.1 hmem

/-- Exactly the entry that agrees with the metadata is found, if such an entry is the first by proof
system and circuit among those with its key id and version. The registry does not depend on the
order of the entries. -/
theorem match_exact_iff (h : ProofKeyRegistry.fromEntries entries = .ok registry) :
    ((∀ e, registry.matchObserved observed = .ok e ↔ e ∈ entries ∧ Agrees e observed) ↔
      ∀ e ∈ entries, Agrees e observed → ∀ e' ∈ entries,
        e'.vkId = observed.vkId → e'.vkVersion = observed.vkVersion → e.rank ≤ e'.rank) ∧
    ∀ entries', entries.Perm entries' → ProofKeyRegistry.fromEntries entries' = .ok registry := by
  refine ⟨?_, fun entries' hperm => fromEntries_perm hperm h⟩
  obtain ⟨hcheck, hentries⟩ := fromEntries_eq_ok.mp h
  have hdistinct := (checkEntries_eq_ok.mp hcheck).2.2.1
  have hsorted : registry.entries.Pairwise (·.rank ≤ ·.rank) :=
    hentries ▸ List.pairwise_insertionSort _ _
  have hmem : ∀ e, e ∈ registry.entries ↔ e ∈ entries := by
    intro e
    rw [hentries, List.mem_insertionSort]
  constructor
  · intro hexact e he hagrees e' he' hid hversion
    obtain ⟨hfound, -⟩ := matchObserved_eq_ok.mp ((hexact e).mpr ⟨he, hagrees⟩)
    exact rank_le_of_find? hsorted hfound e' ((hmem e').mpr he') (by simp [hid, hversion])
  · intro hfirst e
    rw [matchObserved_eq_ok]
    constructor
    · rintro ⟨hfound, hagrees⟩
      exact ⟨(hmem e).mp (List.mem_of_find?_eq_some hfound), hagrees⟩
    · rintro ⟨he, hagrees⟩
      refine ⟨?_, hagrees⟩
      -- the search finds some entry, of the same rank as `e`
      have hsome : (registry.entries.find? fun e =>
          e.vkId = observed.vkId && e.vkVersion = observed.vkVersion).isSome := by
        rw [List.find?_isSome]
        exact ⟨e, (hmem e).mpr he, by simp [hagrees.vkId, hagrees.vkVersion]⟩
      obtain ⟨found, hfound⟩ := Option.isSome_iff_exists.mp hsome
      have hkey := List.find?_some hfound
      simp only [Bool.and_eq_true, decide_eq_true_eq] at hkey
      have hfoundMem := (hmem found).mp (List.mem_of_find?_eq_some hfound)
      have hle := rank_le_of_find? hsorted hfound e ((hmem e).mpr he)
        (by simp [hagrees.vkId, hagrees.vkVersion])
      have hge := hfirst e he hagrees found hfoundMem hkey.1 hkey.2
      rw [hfound, eq_of_rank_eq hdistinct hfoundMem he (le_antisymm hle hge)]

end Matching

namespace Sample

def digest : String := String.ofList (List.replicate 64 'a')

def entry (system : String) : ProofKeyEntry where
  vkId := "vk"
  vkVersion := 1
  proofSystem := system
  circuitId := "circuit"
  circuitVersion := 1
  vkFingerprintAlgorithm := "sha256"
  vkFingerprint := digest
  publicInputSchemaId := "schema"
  publicInputSchemaHashAlgorithm := "sha256"
  publicInputSchemaHash := digest
  lifecycle := .active
  notBefore := 0
  notAfter := none
  allowedTiers := [.metadataBound]
  supersedes := none
  deprecatedHistoricalOnly := false
  claimLabel := "proof_metadata_bound"

def observed (system : String) : ObservedProofMetadata where
  vkId := "vk"
  vkVersion := 1
  proofSystem := system
  circuitId := "circuit"
  circuitVersion := 1
  vkFingerprintAlgorithm := "sha256"
  vkFingerprint := digest
  publicInputSchemaId := "schema"
  publicInputSchemaHashAlgorithm := "sha256"
  publicInputSchemaHash := digest
  observedTier := .metadataBound
  adapterClaimLabel := none

theorem agrees (system : String) : Agrees (entry system) (observed system) :=
  ⟨rfl, rfl, rfl, rfl, rfl, ⟨rfl, rfl⟩, rfl, rfl, rfl⟩

theorem valid_entries : ∀ e ∈ [entry "groth16", entry "plonk"], validateEntry e = .ok () := by
  decide

def registry : ProofKeyRegistry := ⟨[entry "groth16", entry "plonk"], valid_entries⟩

theorem fromEntries_sample :
    ProofKeyRegistry.fromEntries [entry "plonk", entry "groth16"] = .ok registry :=
  fromEntries_eq_ok.mpr ⟨by decide, by decide⟩

theorem first_key_matched :
    registry.matchObserved (observed "groth16") = .ok (entry "groth16") := by
  have hfirst : ∀ e ∈ [entry "plonk", entry "groth16"], Agrees e (observed "groth16") →
      ∀ e' ∈ [entry "plonk", entry "groth16"], e'.vkId = (observed "groth16").vkId →
        e'.vkVersion = (observed "groth16").vkVersion → e.rank ≤ e'.rank := by
    intro e he hagrees e' he' _ _
    simp only [List.mem_cons, List.not_mem_nil, or_false] at he he'
    rcases he with rfl | rfl
    · exact absurd hagrees.proofSystem (by decide)
    · rcases he' with rfl | rfl <;> decide
  exact (((match_exact_iff fromEntries_sample).1.mpr hfirst) _).mpr ⟨by simp, agrees _⟩

/-- The registry accepts both keys, but the second is never matched. -/
theorem second_key_not_matched :
    ProofKeyRegistry.fromEntries [entry "plonk", entry "groth16"] = .ok registry ∧
    entry "plonk" ∈ [entry "plonk", entry "groth16"] ∧ Agrees (entry "plonk") (observed "plonk") ∧
    registry.matchObserved (observed "plonk") = .error .proofSystemMismatch :=
  ⟨fromEntries_sample, List.mem_cons_self, agrees _, by decide⟩

end Sample

end ProofKeys
