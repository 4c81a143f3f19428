import FleetLocator.Peer.Backend
import FleetLocator.Proofs.Driver.Exchange
import FleetLocator.Proofs.Json.Limits
import FleetLocator.Proofs.Service.Operations

/-!
# What is made of a peer's answer

A peer grants a request if it answers with success and a document that does not say otherwise. A lookup and
an update take it as an answer too that there is nothing, and all else is a fault: the answer is malformed
if it is a success whose bytes are those of no document, and unavailable in every other case. Which texts are
documents is left to their grammar; it has limits, so that a number beyond the doubles makes a document none.
-/
namespace FleetLocator.Peer

open Driver (Record)
open Json (Document FieldValue Value bytesOf)
open Json.Grammar
open Service (Backend Desk Fault Operation Outage Question Reply)
open Web (Status)

namespace Transmission

variable {t : Transmission} {d other : Document}

def Succeeds (status : Status) : Prop := 200 ≤ status.code ∧ status.code < 300

/-- All bytes of a success came. -/
def Brings (t : Transmission) (body : List UInt8) : Prop :=
  ∃ status : Status, Succeeds status ∧ t = answered status (some body)

/-- All bytes of a success came, and they are those of a text that stands for the document. -/
def Tells (t : Transmission) (d : Document) : Prop := ∃ cs, t.Brings (bytesOf cs) ∧ IsDocumentOf cs d

theorem succeeds_iff {status : Status} : Succeeds status ↔ status.isSuccess = true := by
  simp [Succeeds, Status.isSuccess]

theorem tells_iff : t.Tells d ↔ ∃ body, t.Brings body ∧ Document.parse body = .ok d := by
  simp only [Tells, Document.parse_eq_ok_iff]
  constructor
  · rintro ⟨cs, hbrings, hcs⟩
    exact ⟨_, hbrings, cs, rfl, hcs⟩
  · rintro ⟨_, hbrings, cs, rfl, hcs⟩
    exact ⟨cs, hbrings, hcs⟩

theorem Brings.unique {body rest : List UInt8} (h : t.Brings body) (h' : t.Brings rest) : body = rest := by
  obtain ⟨status, -, rfl⟩ := h
  obtain ⟨_, -, h'⟩ := h'
  cases h'
  rfl

theorem Tells.unique (h : t.Tells d) (h' : t.Tells other) : d = other := by
  obtain ⟨body, hbody, hd⟩ := tells_iff.mp h
  obtain ⟨rest, hrest, hother⟩ := tells_iff.mp h'
  rw [hbody.unique hrest, hother] at hd
  cases hd
  rfl

end Transmission

/-- What is made of answers to a question: what it means that there is nothing, if that is an answer to it,
what a document stands for, and what is reported when the peer says that it failed. -/
structure Reading (α : Type) where
  missing : Option α
  value : Document → α
  outage : String → Outage

/-- The drivers of a document: those items of its list that are documents. -/
def listed (d : Document) : List Record :=
  (((d.get? "drivers").bind Value.list?).getD []).filterMap fun item => item.document?.map Record.decode

/-- The driver of a document, under the identifier of the document or, if that is no text or empty, under
the one that was asked for. -/
def named (id : String) (d : Document) : Record :=
  { Record.decode d with
    id := (((d.get? "driverId").bind Value.text?).filter fun text => !text.isEmpty).getD id }

/-- What a document says about itself, or nothing. -/
def told (d : Document) : String := ((d.get? "message").bind Value.text?).getD ""

namespace Reading

def findings : Reading (List Record) := ⟨none, listed, .failure⟩

def driver (id : String) : Reading (Option Record) := ⟨some none, fun d => some (named id d), .failure⟩

def affected : Reading Nat := ⟨some 0, fun _ => 1, .refusal⟩

end Reading

namespace Reading

variable {α : Type} {k : Reading α} {a : Answer}

/-- What all three readings of an answer have in common. -/
def read (k : Reading α) (a : Answer) : Except Fault α :=
  match a.isMissing, k.missing with
  | true, some v => .ok v
  | _, _ => a.document.bind fun d =>
    if succeeded d then .ok (k.value d) else .error (.unavailable (k.outage (messageOf d)))

end Reading

namespace Reading.Classifies

variable {α : Type} {k : Reading α} {t : Transmission} {d : Document}

end Reading.Classifies

section

variable {σ : Type} (network : Network σ)

end

/-- What a peer is asked. -/
def Endpoint.request (e : Endpoint) : Question → Request
  | .candidates q => { method := .get, address := e.search q }
  | .fetch id => { method := .get, address := e.driver id }
  | .apply id u => { method := .put, address := e.update id u.change.kind, body := some u.change.encode }

section

variable {σ : Type} (e : Endpoint) (network : Network σ)

end

/-- Text that says that a request failed. -/
def refusal : List Char := "\x7b\"success\":false,\"message\":\"no\"\x7d".toList

/-- A document with one field, whose value stands as it is. -/
def single (cs : List Char) : List Char := "\x7b\"a\":".toList ++ cs ++ ['\x7d']

end FleetLocator.Peer
