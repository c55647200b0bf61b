import SecsMagik.PublicAudit
import SecsMagik.ResourcePaths

/-! # Nullifier domains

What a use is scoped to is written as one text in which labels separate the fields. The fields may
contain the labels, so different domains may be written alike; which values of a field are kept
apart is decided here for each field.
-/
namespace ScopedNullifier

open RustStd
open ExternalCrates (Crates)
open CallContext (VerifiedCallContext)

/-! ## Labels

A label is a word that starts with a bar and has no other. -/

section Labels

variable {α : Type} {bar : α} {word x x' r r' : List α}

/-- What stands in front of a bar is at least as long as a word without one. -/
theorem prefix_of_bar (hword : bar ∉ word) (h : word ++ r = x ++ bar :: r') :
    ∃ t, x = word ++ t ∧ r = t ++ bar :: r' := by
  rcases List.append_eq_append_iff.mp h with ⟨t, hx, hr⟩ | ⟨t, hx, hr⟩
  · exact ⟨t, hx, hr⟩
  · cases t with
    | nil => exact ⟨[], by simpa using hx.symm, by simpa using hr.symm⟩
    | cons c t =>
      obtain ⟨rfl, -⟩ := List.cons.inj hr
      rw [hx] at hword
      simp at hword

/-- The two ways to read a text that starts with a bar and has another one further on. -/
theorem bar_cases (h : bar :: r = x ++ bar :: r') :
    (x = [] ∧ r = r') ∨ ∃ t, x = bar :: t ∧ r = t ++ bar :: r' := by
  cases x with
  | nil => exact .inl ⟨rfl, (List.cons.inj h).2⟩
  | cons c t =>
    obtain ⟨rfl, hr⟩ := List.cons.inj h
    exact .inr ⟨t, rfl, hr⟩

/-- A text in which the same label stands in two places. -/
theorem label_cases (hword : bar ∉ word) (h : x ++ bar :: word ++ r = x' ++ bar :: word ++ r') :
    x = x' ∨ (∃ t, x' = x ++ bar :: word ++ t ∧ r = t ++ bar :: word ++ r') ∨
      ∃ t, x = x' ++ bar :: word ++ t ∧ r' = t ++ bar :: word ++ r := by
  -- one of the two places is further on, and the label of the other stands in front of it
  have hfurther : ∀ {c s s' : List α}, bar :: (word ++ s) = c ++ bar :: (word ++ s') →
      c = [] ∨ ∃ t, c = bar :: word ++ t ∧ s = t ++ bar :: word ++ s' := by
    intro c s s' hc
    rcases bar_cases hc with ⟨hnil, -⟩ | ⟨t, rfl, ht⟩
    · exact .inl hnil
    · obtain ⟨u, rfl, hu⟩ := prefix_of_bar hword ht
      exact .inr ⟨u, by simp, by simpa using hu⟩
  have h' : x ++ bar :: (word ++ r) = x' ++ bar :: (word ++ r') := by simpa using h
  rcases List.append_eq_append_iff.mp h' with ⟨c, rfl, hc⟩ | ⟨c, rfl, hc⟩
  · rcases hfurther hc with rfl | ⟨t, rfl, ht⟩
    · exact .inl (List.append_nil x).symm
    · exact .inr (.inl ⟨t, by simp, ht⟩)
  · rcases hfurther hc with rfl | ⟨t, rfl, ht⟩
    · exact .inl (List.append_nil x')
    · exact .inr (.inr ⟨t, by simp, ht⟩)

/-- A bar ends what a word without one can match. -/
theorem prefix_append_bar (hword : bar ∉ word) : word <+: x ++ bar :: r ↔ word <+: x := by
  constructor
  · rintro ⟨s, hs⟩
    obtain ⟨t, rfl, -⟩ := prefix_of_bar hword hs
    exact List.prefix_append _ _
  · intro h
    exact h.trans (List.prefix_append _ _)

end Labels

/-! ## Domains of verified contexts -/

def IsCanonical (resource : String) : Prop := ∃ r, canonicalResourceId r = .ok resource

namespace NullifierDomainV1

def IsBuilt (d : NullifierDomainV1) : Prop :=
  ∃ context inputs, fromVerifiedContext context inputs = .ok d

/-- What the checks leave of the values. -/
structure Checked (d : NullifierDomainV1) : Prop where
  version : d.domainVersion = nullifierDomainVersion
  audience : trim d.audience ≠ ""
  operation : trim d.operation ≠ ""
  resource : IsCanonical d.canonicalResourceId
  epoch : trim d.epochOrWindow ≠ ""
  issuer : trim d.issuerOrAuthoritySourceId ≠ ""
  root : trim d.rootOrCheckpointId ≠ ""
  subject : rejectSubjectCommitment d.subjectCommitment = .ok ()
  allowance : ∀ a ∈ d.allowanceId, trim a ≠ ""

end NullifierDomainV1

theorem rejectEmpty_eq_ok {value : String} : rejectEmpty value = .ok () ↔ trim value ≠ "" := by
  by_cases h : trim value = "" <;> simp [rejectEmpty, h]

theorem rejectEmpty_allowance_eq_ok {allowance : Option String} :
    allowance.elim (.ok ()) rejectEmpty = .ok () ↔ ∀ a ∈ allowance, trim a ≠ "" := by
  cases allowance with
  | none => simp
  | some a => simpa using rejectEmpty_eq_ok

/-- A context for the given scope; nothing else of it enters a domain. -/
def scopeContext (audience operation resource : String) : VerifiedCallContext where
  schemaVersion := CallContext.verifiedCallContextSchemaVersion
  contextId := ""
  packetHash := Bytes.filled 32 0
  sessionId := Bytes.filled 16 0
  nonce := Bytes.filled 12 0
  opcode := 0
  operation := operation
  resource := some resource
  subject := ⟨"", ""⟩
  audience := audience
  evidenceSummary := []
  proofMetadata := none
  capabilityResult := ""
  credentialResult := ""
  issuedAt := 0
  expiresAt := 0
  descriptorFingerprint := ""
  replayScope := ""
  handlerId := none

theorem NullifierDomainV1.isBuilt_iff {d : NullifierDomainV1} : d.IsBuilt ↔ d.Checked := by
  constructor
  · intro h
    obtain ⟨context, inputs, h⟩ := h
    obtain ⟨resource, -, h⟩ := bind_eq_ok.mp h
    obtain ⟨haudience, h⟩ := check_bind_eq_ok.mp h
    obtain ⟨hoperation, h⟩ := check_bind_eq_ok.mp h
    obtain ⟨hepoch, h⟩ := check_bind_eq_ok.mp h
    obtain ⟨hissuer, h⟩ := check_bind_eq_ok.mp h
    obtain ⟨hroot, h⟩ := check_bind_eq_ok.mp h
    obtain ⟨hsubject, h⟩ := check_bind_eq_ok.mp h
    obtain ⟨hallowance, h⟩ := check_bind_eq_ok.mp h
    obtain ⟨canonical, hcanonical, h⟩ := bind_eq_ok.mp h
    cases h
    exact ⟨rfl, rejectEmpty_eq_ok.mp haudience, rejectEmpty_eq_ok.mp hoperation,
      ⟨resource, hcanonical⟩, rejectEmpty_eq_ok.mp hepoch, rejectEmpty_eq_ok.mp hissuer,
      rejectEmpty_eq_ok.mp hroot, hsubject, rejectEmpty_allowance_eq_ok.mp hallowance⟩
  · intro h
    obtain ⟨resource, hresource⟩ := h.resource
    refine ⟨scopeContext d.audience d.operation resource, ⟨d.resourceKind, d.epochOrWindow,
      d.issuerOrAuthoritySourceId, d.rootOrCheckpointId, d.subjectCommitment, d.allowanceId⟩, ?_⟩
    have hversion := h.version
    simp only [fromVerifiedContext, scopeContext, Option.elim_some, bind, Except.bind,
      rejectEmpty_eq_ok.mpr h.audience, rejectEmpty_eq_ok.mpr h.operation,
      rejectEmpty_eq_ok.mpr h.epoch, rejectEmpty_eq_ok.mpr h.issuer,
      rejectEmpty_eq_ok.mpr h.root, h.subject, rejectEmpty_allowance_eq_ok.mpr h.allowance,
      hresource, ← hversion]
    rfl

/-! ## Fields -/

inductive Field where
  | audience | operation | kind | resource | epoch | issuer | root | subject | allowance
  deriving DecidableEq, Repr

namespace Field

def all : List Field :=
  [.audience, .operation, .kind, .resource, .epoch, .issuer, .root, .subject, .allowance]

def label : Field → String
  | .audience => "|aud="
  | .operation => "|op="
  | .kind => "|kind="
  | .resource => "|res="
  | .epoch => "|epoch="
  | .issuer => "|issuer="
  | .root => "|root="
  | .subject => "|subject="
  | .allowance => "|allowance="

def value (d : NullifierDomainV1) : Field → String
  | .audience => d.audience
  | .operation => d.operation
  | .kind => d.resourceKind.asStr
  | .resource => d.canonicalResourceId
  | .epoch => d.epochOrWindow
  | .issuer => d.issuerOrAuthoritySourceId
  | .root => d.rootOrCheckpointId
  | .subject => d.subjectCommitment
  | .allowance => d.allowanceId.getD ""

def before (f : Field) : List Field := all.takeWhile (· ≠ f)

def after (f : Field) : List Field := (all.dropWhile (· ≠ f)).tail

theorem all_eq (f : Field) : all = f.before ++ f :: f.after := by
  cases f <;> rfl

def word (f : Field) : List Char := f.label.toList.tail

theorem label_eq (f : Field) : f.label.toList = '|' :: f.word := by
  cases f <;> rfl

theorem not_mem_word (f : Field) : '|' ∉ f.word := by
  cases f <;> decide

end Field

def written (fields : List Field) (d : NullifierDomainV1) : List Char :=
  fields.flatMap fun f => f.label.toList ++ (f.value d).toList

theorem written_fields_append (fields more : List Field) (d : NullifierDomainV1) :
    written (fields ++ more) d = written fields d ++ written more d :=
  List.flatMap_append

theorem written_cons (f : Field) (fields : List Field) (d : NullifierDomainV1) :
    written (f :: fields) d = f.label.toList ++ (f.value d).toList ++ written fields d :=
  List.flatMap_cons

theorem written_congr {fields : List Field} {d d' : NullifierDomainV1}
    (h : ∀ f ∈ fields, f.value d = f.value d') : written fields d = written fields d' := by
  induction fields with
  | nil => rfl
  | cons f fields ih =>
    obtain ⟨hf, hfields⟩ := List.forall_mem_cons.mp h
    rw [written_cons, written_cons, hf, ih hfields]

theorem canonicalBytes_eq (d : NullifierDomainV1) :
    d.canonicalBytes = utf8 ("v=" ++ d.domainVersion ++ String.ofList (written Field.all d)) := by
  refine congrArg utf8 ?_
  rw [← String.toList_inj]
  simp [written, Field.all, Field.label, Field.value]

def AgreeBefore (f : Field) (d d' : NullifierDomainV1) : Prop :=
  ∀ g ∈ f.before, g.value d = g.value d'

/-- Domains that agree in front of a field are written alike if they are from there on. -/
theorem canonicalBytes_eq_iff {f : Field} {d d' : NullifierDomainV1} (hd : d.Checked)
    (hd' : d'.Checked) (h : AgreeBefore f d d') :
    d.canonicalBytes = d'.canonicalBytes ↔
      (f.value d).toList ++ written f.after d = (f.value d').toList ++ written f.after d' := by
  rw [canonicalBytes_eq, canonicalBytes_eq, utf8_injective.eq_iff, hd.version, hd'.version,
    String.append_right_inj, String.ofList_inj, f.all_eq, written_fields_append,
    written_fields_append, written_congr h, List.append_right_inj, written_cons, written_cons,
    List.append_assoc, List.append_assoc, List.append_right_inj]

theorem Field.forall_of_before {P : Field → Prop} (h : ∀ f, (∀ g ∈ f.before, P g) → P f)
    (f : Field) : P f := by
  have hshorter : ∀ f : Field, ∀ g ∈ f.before, g.before.length < f.before.length := by
    intro f
    cases f <;> decide
  exact (measure fun f : Field => f.before.length).wf.induction f
    fun f ih => h f fun g hg => ih g (hshorter f g hg)

theorem ResourceKind.asStr_injective : Function.Injective ResourceKind.asStr := by
  intro a b h
  cases a <;> cases b <;> first | rfl | exact absurd h (by decide)

theorem eq_of_values {d d' : NullifierDomainV1} (hd : d.Checked) (hd' : d'.Checked)
    (h : ∀ f : Field, f.value d = f.value d') : d = d' := by
  have hallowance : d.allowanceId = d'.allowanceId := by
    -- no allowance is written as a blank one, which is refused
    have hvalue : d.allowanceId.getD "" = d'.allowanceId.getD "" := h .allowance
    have hsome : ∀ {allowance : Option String}, (∀ a ∈ allowance, trim a ≠ "") →
        allowance = if allowance.getD "" = "" then none else some (allowance.getD "") := by
      intro allowance hcheck
      cases allowance with
      | none => rfl
      | some a =>
        have hne : a ≠ "" := by
          intro hempty
          exact hcheck a rfl (by rw [hempty]; rfl)
        rw [Option.getD_some, if_neg hne]
    rw [hsome hd.allowance, hsome hd'.allowance, hvalue]
  have hkind := ResourceKind.asStr_injective (h .kind)
  have hversion := hd.version.trans hd'.version.symm
  cases d
  cases d'
  simp only [NullifierDomainV1.mk.injEq]
  exact ⟨hversion, h .audience, h .operation, hkind, h .resource, h .epoch, h .issuer, h .root,
    h .subject, hallowance⟩

theorem exists_first_difference {d d' : NullifierDomainV1} (hd : d.Checked) (hd' : d'.Checked)
    (h : d ≠ d') : ∃ f, AgreeBefore f d d' ∧ f.value d ≠ f.value d' := by
  by_contra hnone
  refine h (eq_of_values hd hd' (Field.forall_of_before fun f hbefore => ?_))
  by_contra hdiffer
  exact hnone ⟨f, hbefore, hdiffer⟩

/-! ## Values that take in the next field -/

/-- The value `x'` continues `x` with the label of the next field, and a domain with the one is
written like a domain with the other. -/
def Field.Absorbs : Field → String → String → Prop
  | .audience, x, x' => trim x ≠ "" ∧ ∃ t, x' = x ++ "|op=" ++ t
  | .operation, x, x' => trim x ≠ "" ∧ ∃ (kind : ResourceKind) (resource t : String),
      IsCanonical resource ∧
        x' = x ++ "|kind=" ++ kind.asStr ++ "|res=" ++ resource ++ "|epoch=" ++ t
  | .kind, _, _ => False
  | .resource, x, x' => IsCanonical x ∧ IsCanonical x' ∧ ∃ t, x' = x ++ "|epoch=" ++ t
  | .epoch, x, x' => trim x ≠ "" ∧ ∃ t, x' = x ++ "|issuer=" ++ t
  | .issuer, x, x' => trim x ≠ "" ∧ ∃ t, x' = x ++ "|root=" ++ t
  | .root, x, x' => trim x ≠ "" ∧ ∃ t, rejectSubjectCommitment (t ++ "|") = .ok () ∧
      x' = x ++ "|subject=" ++ t
  | .subject, x, x' => rejectSubjectCommitment x = .ok () ∧ ∃ t, x' = x ++ "|allowance=" ++ t
  | .allowance, _, _ => False

/-- What a subject must not start with. -/
def refusedHeads : List String := ["wallet:", "holder:", "subject_id:", "credential_id:"]

theorem bar_notMem_refusedHeads : ∀ head ∈ refusedHeads, '|' ∉ head.toList := by
  decide

theorem rejectSubjectCommitment_eq_ok {value : String} :
    rejectSubjectCommitment value = .ok () ↔ trim value ≠ "" ∧
      ∀ head ∈ refusedHeads, ¬ head.toList <+: value.toList.map Char.toLower := by
  simp only [rejectSubjectCommitment, refusedHeads, check_bind_eq_ok, rejectEmpty_eq_ok,
    startsWith, asciiLower, chars_eq, String.toList_ofList, List.forall_mem_cons, List.not_mem_nil,
    false_implies, implies_true, and_true]
  refine and_congr_right fun _ => ?_
  simp only [← List.isPrefixOf_iff_prefix, ← not_or, Bool.or_eq_true, or_assoc]
  split
  · next hmatch => exact iff_of_false (by simp) (not_not_intro hmatch)
  · next hmatch => exact iff_of_true rfl hmatch

/-- Whether a subject is refused is decided in front of its first bar. -/
theorem rejectSubjectCommitment_append_bar {s t : String} {r r' : List Char}
    (hs : rejectSubjectCommitment s = .ok ())
    (h : s.toList ++ '|' :: r = t.toList ++ '|' :: r') :
    ∀ u, rejectSubjectCommitment (t ++ "|" ++ u) = .ok () := by
  intro u
  rw [rejectSubjectCommitment_eq_ok] at hs ⊢
  constructor
  · intro hblank
    have hno := trim_eq_empty_iff.mp hblank '|' (by simp)
    revert hno
    decide
  · intro head hhead hmatch
    have hbar := bar_notMem_refusedHeads head hhead
    have hlower : s.toList.map Char.toLower ++ '|' :: r.map Char.toLower =
        t.toList.map Char.toLower ++ '|' :: r'.map Char.toLower := by
      simpa using congrArg (List.map Char.toLower) h
    have ht : head.toList <+: t.toList.map Char.toLower := by
      rw [← prefix_append_bar (r := u.toList.map Char.toLower) hbar]
      simpa using hmatch
    refine hs.2 head hhead ?_
    rw [← prefix_append_bar hbar, hlower, prefix_append_bar hbar]
    exact ht

theorem no_double_slash (parts : List String) (hplain : ∀ p ∈ parts, IsPlain p)
    (hslash : ∀ p ∈ parts, '/' ∉ p.toList) :
    ¬ ['/', '/'] <:+: '/' :: (join parts "/").toList := by
  intro hinfix
  obtain ⟨a, b, hab⟩ := hinfix
  by_cases hnil : parts = []
  · have hlength := congrArg List.length hab
    simp [hnil, join] at hlength
    omega
  · rw [toList_join_slash] at hab
    have hsplit : (parts.map String.toList) = ((a ++ '/' :: '/' :: b).splitOn '/').tail := by
      rw [show a ++ '/' :: '/' :: b = a ++ ['/', '/'] ++ b by simp, hab,
        List.splitOn_cons_eq_if_modifyHead, if_pos (beq_self_eq_true _), List.tail_cons,
        List.splitOn_intercalate]
      · intro cs hcs
        obtain ⟨p, hp, rfl⟩ := List.mem_map.mp hcs
        exact hslash p hp
      · simpa using hnil
    obtain ⟨first, rest, hfirst⟩ := List.exists_cons_of_ne_nil (List.splitOn_ne_nil '/' a)
    have hempty : [] ∈ parts.map String.toList := by
      rw [hsplit, List.splitOn_append_cons_self, hfirst, List.splitOn_cons_eq_if_modifyHead,
        if_pos (beq_self_eq_true _)]
      simp
    obtain ⟨p, hp, hpnil⟩ := List.mem_map.mp hempty
    exact (hplain p hp).1 (String.toList_eq_nil_iff.mp hpnil)

theorem IsCanonical.form {resource : String} (h : IsCanonical resource) :
    ∃ path, resource.toList = "file://".toList ++ path ∧ ¬ ['/', '/'] <:+: path := by
  obtain ⟨r, hr⟩ := h
  obtain ⟨-, -, hcanonical⟩ := canonicalResourceId_eq_ok.mp hr
  have hpath := no_double_slash (remaining (split (pathOf r) '/'))
    (fun p hp => (mem_remaining hp).2) (fun p hp => not_mem_of_mem_split (mem_remaining hp).1)
  by_cases habsolute : startsWith (pathOf r) "/"
  · rw [if_pos habsolute] at hcanonical
    exact ⟨_, by rw [hcanonical, String.toList_append]; rfl, hpath⟩
  · rw [if_neg habsolute] at hcanonical
    refine ⟨_, by rw [hcanonical, String.toList_append], fun hinfix => hpath ?_⟩
    exact hinfix.trans (List.suffix_cons _ _).isInfix

/-- Where the resource of the one domain ends in the text of the other: a kind and a resource
written behind it would put two slashes into the path. -/
theorem resource_in_continuation (kind kind' : ResourceKind) {resource resource' : String}
    {t z z' : List Char} (hresource : IsCanonical resource) (hresource' : IsCanonical resource')
    (h : kind.asStr.toList ++ '|' :: ("res=".toList ++ resource.toList ++
        '|' :: ("epoch=".toList ++ z)) =
      t ++ '|' :: ("kind=".toList ++ kind'.asStr.toList ++ '|' :: ("res=".toList ++
        resource'.toList ++ '|' :: ("epoch=".toList ++ z')))) :
    ∃ s, t = kind.asStr.toList ++ '|' :: ("res=".toList ++ resource.toList ++
      '|' :: ("epoch=".toList ++ s)) := by
  have hkind : ∀ kind : ResourceKind, '|' ∉ kind.asStr.toList := by
    intro kind
    cases kind <;> decide
  obtain ⟨path, hform, hpath⟩ := hresource.form
  obtain ⟨path', hform', -⟩ := hresource'.form
  obtain ⟨t₁, rfl, h₁⟩ := prefix_of_bar (hkind kind) h
  rcases bar_cases h₁ with ⟨-, hlabel⟩ | ⟨t₂, rfl, h₂⟩
  · exact absurd (List.head_eq_of_cons_eq hlabel) (by decide)
  rw [hform, List.append_assoc, List.append_assoc, ← List.append_assoc "res=".toList] at h₂
  obtain ⟨t₃, rfl, h₃⟩ := prefix_of_bar (by decide) h₂
  rcases List.append_eq_append_iff.mp h₃ with ⟨c, rfl, hc⟩ | ⟨c, hpathEq, hc⟩
  · rcases bar_cases hc with ⟨-, hlabel⟩ | ⟨c₁, rfl, hc₁⟩
    · exact absurd (List.head_eq_of_cons_eq hlabel) (by decide)
    · obtain ⟨s, rfl, -⟩ := prefix_of_bar (by decide) hc₁
      exact ⟨s, by simp [hform]⟩
  · -- the path would go on with the kind and the resource of the other domain
    rcases bar_cases hc with ⟨-, hlabel⟩ | ⟨c₁, rfl, hc₁⟩
    · exact absurd (List.head_eq_of_cons_eq hlabel) (by decide)
    · have hword : '|' ∉ "kind=".toList ++ kind'.asStr.toList := by
        cases kind' <;> decide
      obtain ⟨c₂, rfl, hc₂⟩ := prefix_of_bar hword hc₁
      rcases bar_cases hc₂ with ⟨-, hlabel⟩ | ⟨c₃, rfl, hc₃⟩
      · exact absurd (List.head_eq_of_cons_eq hlabel) (by decide)
      · rw [hform', List.append_assoc, List.append_assoc, ← List.append_assoc "res=".toList] at hc₃
        obtain ⟨c₄, rfl, -⟩ := prefix_of_bar (by decide) hc₃
        refine absurd ?_ hpath
        refine ⟨t₃ ++ '|' :: ("kind=".toList ++ kind'.asStr.toList ++ '|' :: "res=file:".toList),
          c₄, ?_⟩
        rw [hpathEq]
        simp

section Collisions

variable {f g : Field} {rest : List Field} {d d' : NullifierDomainV1}

/-- A value that goes on with the label of the next field is one that takes it in. -/
theorem absorbs_of_continues {t : List Char} (hd : d.Checked) (hd' : d'.Checked)
    (hafter : f.after = g :: rest)
    (hvalue : (f.value d').toList = (f.value d).toList ++ '|' :: g.word ++ t)
    (hrest : (g.value d).toList ++ written rest d =
      t ++ '|' :: g.word ++ ((g.value d').toList ++ written rest d')) :
    f.Absorbs (f.value d) (f.value d') := by
  have hstring : f.value d' = f.value d ++ g.label ++ String.ofList t := by
    rw [← String.toList_inj, hvalue, String.toList_append, String.toList_append, g.label_eq,
      String.toList_ofList]
  cases f with
  | audience =>
    obtain ⟨rfl, -⟩ := List.cons.inj hafter
    exact ⟨hd.audience, _, hstring⟩
  | operation =>
    obtain ⟨rfl, rfl⟩ := List.cons.inj hafter
    obtain ⟨s, rfl⟩ := resource_in_continuation d.resourceKind d'.resourceKind hd.resource
      hd'.resource (by
        simpa [written, Field.value, Field.label, Field.word] using hrest)
    refine ⟨hd.operation, d.resourceKind, d.canonicalResourceId, String.ofList s, hd.resource, ?_⟩
    rw [hstring, ← String.toList_inj]
    simp [Field.label]
  | kind =>
    have hbar : '|' ∈ d'.resourceKind.asStr.toList := by
      rw [show d'.resourceKind.asStr = Field.value d' .kind from rfl, hvalue]
      simp
    cases hkind : d'.resourceKind <;> rw [hkind] at hbar <;> exact absurd hbar (by decide)
  | resource =>
    obtain ⟨rfl, -⟩ := List.cons.inj hafter
    exact ⟨hd.resource, hd'.resource, _, hstring⟩
  | epoch =>
    obtain ⟨rfl, -⟩ := List.cons.inj hafter
    exact ⟨hd.epoch, _, hstring⟩
  | issuer =>
    obtain ⟨rfl, -⟩ := List.cons.inj hafter
    exact ⟨hd.issuer, _, hstring⟩
  | root =>
    obtain ⟨rfl, rfl⟩ := List.cons.inj hafter
    have hok := rejectSubjectCommitment_append_bar (t := String.ofList t) hd.subject (by
      simpa [written, Field.value, Field.label, Field.word] using hrest) ""
    exact ⟨hd.root, _, by simpa using hok, hstring⟩
  | subject =>
    obtain ⟨rfl, -⟩ := List.cons.inj hafter
    exact ⟨hd.subject, _, hstring⟩
  | allowance => cases hafter

theorem absorbs_of_collision (hd : d.Checked) (hd' : d'.Checked) (hbefore : AgreeBefore f d d')
    (hdiffer : f.value d ≠ f.value d') (hbytes : d.canonicalBytes = d'.canonicalBytes) :
    f.Absorbs (f.value d) (f.value d') ∨ f.Absorbs (f.value d') (f.value d) := by
  rw [canonicalBytes_eq_iff hd hd' hbefore] at hbytes
  cases hafter : f.after with
  | nil =>
    rw [hafter] at hbytes
    refine absurd (String.toList_inj.mp ?_) hdiffer
    simpa [written] using hbytes
  | cons g rest =>
    rw [hafter, written_cons, written_cons, g.label_eq] at hbytes
    rcases label_cases g.not_mem_word (by simpa using hbytes) with heq | ⟨t, hvalue, hrest⟩ |
      ⟨t, hvalue, hrest⟩
    · exact absurd (String.toList_inj.mp heq) hdiffer
    · exact .inl (absorbs_of_continues hd hd' hafter hvalue hrest)
    · exact .inr (absorbs_of_continues hd' hd hafter hvalue hrest)

theorem trim_ne_empty_of_bar {s : String} (h : '|' ∈ s.toList) : trim s ≠ "" := by
  intro hblank
  have hno := trim_eq_empty_iff.mp hblank '|' h
  revert hno
  decide

def plainDomain : NullifierDomainV1 where
  domainVersion := nullifierDomainVersion
  audience := "receiver"
  operation := "read_file"
  resourceKind := .file
  canonicalResourceId := "file://notes"
  epochOrWindow := "1"
  issuerOrAuthoritySourceId := "issuer"
  rootOrCheckpointId := "root"
  subjectCommitment := "commitment"
  allowanceId := none

theorem plainDomain_checked : plainDomain.Checked where
  version := rfl
  audience := by decide
  operation := by decide
  resource := ⟨"file://notes", by decide⟩
  epoch := by decide
  issuer := by decide
  root := by decide
  subject := by decide
  allowance := by simp [plainDomain]

/-- A value that takes in the next field collides with the one that it continues. -/
theorem collision_of_absorbs {x x' : String} (h : f.Absorbs x x') :
    ∃ d d' : NullifierDomainV1, d.Checked ∧ d'.Checked ∧ AgreeBefore f d d' ∧
      f.value d = x ∧ f.value d' = x' ∧ d.canonicalBytes = d'.canonicalBytes := by
  cases f with
  | audience =>
    obtain ⟨hx, t, rfl⟩ := h
    refine ⟨{ plainDomain with audience := x, operation := t ++ "|op=" ++ "read_file" },
      { plainDomain with audience := x ++ "|op=" ++ t },
      { plainDomain_checked with
        audience := hx, operation := trim_ne_empty_of_bar (by simp) },
      { plainDomain_checked with audience := trim_ne_empty_of_bar (by simp) },
      by simp [AgreeBefore, Field.before, Field.all], rfl, rfl, congrArg utf8 ?_⟩
    simp only [plainDomain, String.append_assoc]
  | operation =>
    obtain ⟨hx, kind, resource, t, hresource, rfl⟩ := h
    refine ⟨{ plainDomain with
          operation := x, resourceKind := kind, canonicalResourceId := resource,
          epochOrWindow :=
            t ++ "|kind=" ++ "file" ++ "|res=" ++ "file://notes" ++ "|epoch=" ++ "1" },
      { plainDomain with
          operation := x ++ "|kind=" ++ kind.asStr ++ "|res=" ++ resource ++ "|epoch=" ++ t },
      { plainDomain_checked with
        operation := hx, resource := hresource, epoch := trim_ne_empty_of_bar (by simp) },
      { plainDomain_checked with operation := trim_ne_empty_of_bar (by simp) },
      by simp [AgreeBefore, Field.before, Field.all, Field.value], rfl, rfl, congrArg utf8 ?_⟩
    simp only [plainDomain, ResourceKind.asStr, String.append_assoc]
  | kind => exact h.elim
  | resource =>
    obtain ⟨hx, hx', t, rfl⟩ := h
    refine ⟨{ plainDomain with
          canonicalResourceId := x, epochOrWindow := t ++ "|epoch=" ++ "1" },
      { plainDomain with canonicalResourceId := x ++ "|epoch=" ++ t },
      { plainDomain_checked with
        resource := hx, epoch := trim_ne_empty_of_bar (by simp) },
      { plainDomain_checked with resource := hx' },
      by simp [AgreeBefore, Field.before, Field.all, Field.value], rfl, rfl, congrArg utf8 ?_⟩
    simp only [plainDomain, ResourceKind.asStr, String.append_assoc]
  | epoch =>
    obtain ⟨hx, t, rfl⟩ := h
    refine ⟨{ plainDomain with
          epochOrWindow := x, issuerOrAuthoritySourceId := t ++ "|issuer=" ++ "issuer" },
      { plainDomain with epochOrWindow := x ++ "|issuer=" ++ t },
      { plainDomain_checked with epoch := hx, issuer := trim_ne_empty_of_bar (by simp) },
      { plainDomain_checked with epoch := trim_ne_empty_of_bar (by simp) },
      by simp [AgreeBefore, Field.before, Field.all, Field.value], rfl, rfl, congrArg utf8 ?_⟩
    simp only [plainDomain, ResourceKind.asStr, String.append_assoc]
  | issuer =>
    obtain ⟨hx, t, rfl⟩ := h
    refine ⟨{ plainDomain with
          issuerOrAuthoritySourceId := x, rootOrCheckpointId := t ++ "|root=" ++ "root" },
      { plainDomain with issuerOrAuthoritySourceId := x ++ "|root=" ++ t },
      { plainDomain_checked with issuer := hx, root := trim_ne_empty_of_bar (by simp) },
      { plainDomain_checked with issuer := trim_ne_empty_of_bar (by simp) },
      by simp [AgreeBefore, Field.before, Field.all, Field.value], rfl, rfl, congrArg utf8 ?_⟩
    simp only [plainDomain, ResourceKind.asStr, String.append_assoc]
  | root =>
    obtain ⟨hx, t, ht, rfl⟩ := h
    have hsubject : rejectSubjectCommitment (t ++ "|subject=" ++ "commitment") = .ok () := by
      have hbars : (t ++ "|").toList ++ '|' :: [] = t.toList ++ '|' :: ['|'] := by simp
      have hok := rejectSubjectCommitment_append_bar ht hbars "subject=commitment"
      rw [String.append_assoc] at hok ⊢
      exact hok
    refine ⟨{ plainDomain with
          rootOrCheckpointId := x, subjectCommitment := t ++ "|subject=" ++ "commitment" },
      { plainDomain with rootOrCheckpointId := x ++ "|subject=" ++ t },
      { plainDomain_checked with root := hx, subject := hsubject },
      { plainDomain_checked with root := trim_ne_empty_of_bar (by simp) },
      by simp [AgreeBefore, Field.before, Field.all, Field.value], rfl, rfl, congrArg utf8 ?_⟩
    simp only [plainDomain, ResourceKind.asStr, String.append_assoc]
  | subject =>
    obtain ⟨hx, t, rfl⟩ := h
    have hsubject : rejectSubjectCommitment (x ++ "|allowance=" ++ t) = .ok () := by
      have hok := rejectSubjectCommitment_append_bar (t := x) (r := []) hx rfl ("allowance=" ++ t)
      rw [String.append_assoc] at hok ⊢
      exact hok
    refine ⟨{ plainDomain with
          subjectCommitment := x, allowanceId := some (t ++ "|allowance=") },
      { plainDomain with subjectCommitment := x ++ "|allowance=" ++ t },
      { plainDomain_checked with
        subject := hx
        allowance := by rintro a ⟨rfl⟩; exact trim_ne_empty_of_bar (by simp) },
      { plainDomain_checked with subject := hsubject },
      by simp [AgreeBefore, Field.before, Field.all, Field.value], rfl, rfl, congrArg utf8 ?_⟩
    simp only [plainDomain, Option.getD_some, Option.getD_none, String.append_assoc,
      String.append_empty]
  | allowance => exact h.elim

end Collisions

/-! ## Fields kept apart -/

/-- The bytes that the fingerprint of a domain is the digest of. -/
def NullifierDomainV1.hashed (d : NullifierDomainV1) : List UInt8 :=
  utf8 "nullifier-domain" ++ [0] ++ d.canonicalBytes

def shortDigest (crates : Crates) (bytes : List UInt8) : List UInt8 :=
  (crates.sha256 bytes).val.take 12

/-- No domain whose first difference from another is `x` instead of `x'` is written like the other,
or shares its fingerprint if the two have different digests. -/
def KeptApart (crates : Crates) (f : Field) (x x' : String) : Prop :=
  ∀ d d' : NullifierDomainV1, d.IsBuilt → d'.IsBuilt → AgreeBefore f d d' →
    f.value d = x → f.value d' = x' → d.canonicalBytes ≠ d'.canonicalBytes ∧
      (Set.InjOn (shortDigest crates) {d.hashed, d'.hashed} →
        d.fingerprint crates ≠ d'.fingerprint crates)

theorem fingerprint_ne {crates : Crates} {d d' : NullifierDomainV1}
    (hbytes : d.canonicalBytes ≠ d'.canonicalBytes)
    (hdigest : Set.InjOn (shortDigest crates) {d.hashed, d'.hashed}) :
    d.fingerprint crates ≠ d'.fingerprint crates := by
  intro h
  have hshort : shortDigest crates d.hashed = shortDigest crates d'.hashed :=
    PublicAudit.lowerHex_injective h
  have hhashed : d.hashed = d'.hashed := hdigest (by simp) (by simp) hshort
  exact hbytes (List.append_cancel_left hhashed)

/-- Two domains that differ do so first in some field, and there the values are kept apart exactly
if neither takes in the field behind it. -/
theorem domain_kept_apart_iff (crates : Crates) :
    (∀ d d' : NullifierDomainV1, d.IsBuilt → d'.IsBuilt → d ≠ d' →
      ∃ f, AgreeBefore f d d' ∧ f.value d ≠ f.value d') ∧
    ∀ (f : Field) (x x' : String), x ≠ x' →
      (KeptApart crates f x x' ↔ ¬ (f.Absorbs x x' ∨ f.Absorbs x' x)) := by
  constructor
  · intro d d' hd hd' hne
    exact exists_first_difference (NullifierDomainV1.isBuilt_iff.mp hd)
      (NullifierDomainV1.isBuilt_iff.mp hd') hne
  · intro f x x' hne
    constructor
    · intro hapart habsorbs
      rcases habsorbs with habsorbs | habsorbs
      · obtain ⟨d, d', hd, hd', hbefore, hx, hx', hbytes⟩ := collision_of_absorbs habsorbs
        exact (hapart d d' (NullifierDomainV1.isBuilt_iff.mpr hd)
          (NullifierDomainV1.isBuilt_iff.mpr hd') hbefore hx hx').1 hbytes
      · obtain ⟨d', d, hd', hd, hbefore, hx', hx, hbytes⟩ := collision_of_absorbs habsorbs
        exact (hapart d d' (NullifierDomainV1.isBuilt_iff.mpr hd)
          (NullifierDomainV1.isBuilt_iff.mpr hd') (fun g hg => (hbefore g hg).symm) hx hx').1
          hbytes.symm
    · intro hno d d' hd hd' hbefore hx hx'
      have hbytes : d.canonicalBytes ≠ d'.canonicalBytes := by
        intro hbytes
        refine hno ?_
        rw [← hx, ← hx'] at hne ⊢
        exact absorbs_of_collision (NullifierDomainV1.isBuilt_iff.mp hd)
          (NullifierDomainV1.isBuilt_iff.mp hd') hbefore hne hbytes
      exact ⟨hbytes, fingerprint_ne hbytes⟩

namespace Sample

/-- Digests that repeat the first byte of the audience. -/
def digests : Crates :=
  { Crates.transparent with sha256 := fun message => .filled 32 (message[43]?.getD 0) }

def alpha : NullifierDomainV1 := { plainDomain with audience := "alpha" }

def beta : NullifierDomainV1 := { plainDomain with audience := "beta" }

theorem audiences_kept_apart :
    KeptApart digests .audience "alpha" "beta" ∧ alpha.IsBuilt ∧ beta.IsBuilt ∧
      alpha.fingerprint digests ≠ beta.fingerprint digests := by
  have hapart : KeptApart digests .audience "alpha" "beta" := by
    refine ((domain_kept_apart_iff digests).2 .audience "alpha" "beta" (by decide)).mpr ?_
    intro habsorbs
    rcases habsorbs with ⟨-, t, ht⟩ | ⟨-, t, ht⟩
    · have hchars := congrArg String.toList ht
      simp at hchars
    · have hchars := congrArg String.toList ht
      simp at hchars
  have halpha : alpha.IsBuilt := NullifierDomainV1.isBuilt_iff.mpr
    { plainDomain_checked with audience := by decide }
  have hbeta : beta.IsBuilt := NullifierDomainV1.isBuilt_iff.mpr
    { plainDomain_checked with audience := by decide }
  have hdigest : Set.InjOn (shortDigest digests) {alpha.hashed, beta.hashed} := by
    have hne : shortDigest digests alpha.hashed ≠ shortDigest digests beta.hashed := by
      decide +kernel
    rw [Set.injOn_pair]
    intro h
    exact absurd h hne
  exact ⟨hapart, halpha, hbeta, (hapart alpha beta halpha hbeta (by
    simp [AgreeBefore, Field.before, Field.all]) rfl rfl).2 hdigest⟩

/-- Two audiences with two operations, written alike. -/
theorem audience_takes_in_operation :
    ∃ context context' : VerifiedCallContext, ∃ inputs : NullifierDomainV1Inputs,
      ∃ d d' : NullifierDomainV1,
      NullifierDomainV1.fromVerifiedContext context inputs = .ok d ∧
      NullifierDomainV1.fromVerifiedContext context' inputs = .ok d' ∧
      d.audience = "a|op=b" ∧ d.operation = "c" ∧ d'.audience = "a" ∧ d'.operation = "b|op=c" ∧
      d.canonicalBytes = d'.canonicalBytes ∧
      ∀ crates : Crates, d.fingerprint crates = d'.fingerprint crates := by
  refine ⟨scopeContext "a|op=b" "c" "file://notes", scopeContext "a" "b|op=c" "file://notes",
    ⟨.file, "1", "issuer", "root", "commitment", none⟩,
    { plainDomain with audience := "a|op=b", operation := "c" },
    { plainDomain with audience := "a", operation := "b|op=c" }, by decide,
    by decide, rfl, rfl, rfl, rfl, ?_⟩
  have hbytes : NullifierDomainV1.canonicalBytes
      { plainDomain with audience := "a|op=b", operation := "c" } =
      NullifierDomainV1.canonicalBytes
      { plainDomain with audience := "a", operation := "b|op=c" } := by
    refine congrArg utf8 ?_
    rw [← String.toList_inj]
    simp
  refine ⟨hbytes, fun crates => ?_⟩
  rw [NullifierDomainV1.fingerprint, hbytes]
  rfl

end Sample

end ScopedNullifier
