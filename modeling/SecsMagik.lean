import SecsMagik.NodeRegistration
import SecsMagik.PermissionPolicy
import SecsMagik.ProofKeys
import SecsMagik.Ledger
import SecsMagik.GatewayMachine
import SecsMagik.CallerProof
import SecsMagik.GatewayRouter
import SecsMagik.DispatchGates
import SecsMagik.RouterRuns
import SecsMagik.LedgerCalls
import SecsMagik.ScopedUse
import SecsMagik.ReceiptTruth
import SecsMagik.ReplayProtection
import SecsMagik.WireCodec
import SecsMagik.ExecutionTransport
import SecsMagik.CallerProofCodec
import SecsMagik.ReceiptSignatures
import SecsMagik.JsonText
import SecsMagik.PublicAudit
import SecsMagik.AuditExport
import SecsMagik.IngressFraming
import SecsMagik.IngressMeaning
import SecsMagik.HandlerRuns
import SecsMagik.RouterExactness
import SecsMagik.OutcomeViews
import SecsMagik.ExecutionRouting
import SecsMagik.ReceiptAudit
import SecsMagik.CallVerifier
import SecsMagik.VerifierModes
import SecsMagik.IngressGateway
import SecsMagik.IngressEvidence
import SecsMagik.IngressReplay
import SecsMagik.ConnectionSafety
import SecsMagik.DisclosureGate
import SecsMagik.AuditScope
import SecsMagik.CanonicalJson
import SecsMagik.GrantContract
import SecsMagik.HolderGrants
import SecsMagik.ResourceSelectors
import SecsMagik.ScopedGrants
import SecsMagik.GrantRoundTrip
import SecsMagik.GrantShapes
import SecsMagik.GrantUsability
import SecsMagik.Attenuation
import SecsMagik.HolderSessions
import SecsMagik.SessionSafety
import SecsMagik.AuthorityLedger
import SecsMagik.Base64Url
import SecsMagik.DevgraphAuthority
import SecsMagik.LiveSource
import SecsMagik.DreggAuthorities
import SecsMagik.DecisionFrames
import SecsMagik.SealedEnvelopes
import SecsMagik.ClientRequests
import SecsMagik.WorkPolicies
import SecsMagik.JsonMaps
import SecsMagik.StrictJson
import SecsMagik.WorkProgress
import SecsMagik.WorkRequests
import SecsMagik.WorkVocabulary
import SecsMagik.IssueRetries
import SecsMagik.ProgramLogic
import SecsMagik.FrankContracts
import SecsMagik.CanonicalWriters
import SecsMagik.FrankOutputs
import SecsMagik.FrankJournal
import SecsMagik.FrankExchange
import SecsMagik.FrankRuns
import SecsMagik.ProofKeyMatching
import SecsMagik.ProviderSnapshots
import SecsMagik.NullifierDomains
import SecsMagik.DescriptorFingerprints
import SecsMagik.PermissionEditing
import SecsMagik.Rfc8259
import SecsMagik.RawJson
import SecsMagik.RawDocuments
import SecsMagik.CharBoundaries
import SecsMagik.WorkDisclosures
import SecsMagik.DisclosureLimits
import SecsMagik.ResourceSpellings
import SecsMagik.EvidenceSignatures
import SecsMagik.ValidityCodecs
import SecsMagik.KeyParsing
