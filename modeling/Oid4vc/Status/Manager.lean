import Oid4vc.Base.PartialMap
import Oid4vc.Status.StatusList2021
import Oid4vc.Status.TokenStatusList
import Mathlib.Data.Finset.Card

/-!
The status manager: a revocation and a suspension list, each kept in both formats, and a
revocation list of its own for mdocs. Indices are drawn at random from the unused ones.
-/

namespace Oid4vc.Manager

open Oid4vc.JsonValue Oid4vc.Fallible Oid4vc.PartialMap Oid4vc.External Oid4vc.StatusTypes
open Oid4vc.StatusList2021 Oid4vc.TokenStatusList

inductive ManagerError
  | listNotFound (id : String)
  | listError (msg : String)
  | noAvailableIndex
  | lockPoisoned
  deriving DecidableEq

def ManagerError.toString : ManagerError → String
  | .listNotFound id => "status list not found: " ++ id
  | .listError msg => "status list error: " ++ msg
  | .noAvailableIndex => "no available index"
  | .lockPoisoned => "lock poisoned"

def listCapacity : ℕ := 100000

structure ManagedList where
  sl2021 : StatusList
  tsl : TokenStatusListImpl
  purpose : StatusPurpose
  capacity : ℕ
  allocated : Finset ℕ

structure MdocList where
  tsl : TokenStatusListImpl
  allocated : Finset ℕ

structure StatusManager where
  lists : PMap String ManagedList
  mdoc : MdocList
  issuerUrl : String

/-- Draw an unused index at random: the first of the numbers drawn whose remainder is not
taken. With all of them taken it goes on drawing, and has no answer yet. -/
def drawIndex (allocated : Finset ℕ) (capacity : ℕ) (draws : List ℕ) :
    Option (Except ManagerError (ℕ × Finset ℕ)) :=
  if capacity ≤ allocated.card then some (.error .noAvailableIndex)
  else
    match (draws.map (· % capacity)).find? (· ∉ allocated) with
    | some candidate => some (.ok (candidate, insert candidate allocated))
    | none => none

/-- An empty Token Status List of this capacity. -/
def newTsl (bits : ℕ) (h : bits ∈ [1, 2, 4, 8]) : TokenStatusListImpl where
  data := List.replicate ((listCapacity + 8 / bits - 1) / (8 / bits)) 0
  bitsPerStatus := bits
  capacity := listCapacity
  width := h

lemma newTsl_eq {bits : ℕ} (h : bits ∈ [1, 2, 4, 8]) :
    TokenStatusListImpl.new listCapacity bits = .ok (newTsl bits h) := dif_pos h

def newList (purpose : StatusPurpose) : ManagedList where
  sl2021 := StatusList.new listCapacity
  tsl := newTsl 2 (by decide)
  purpose := purpose
  capacity := listCapacity
  allocated := ∅

namespace StatusManager

def new (issuerUrl : String) : StatusManager where
  lists := (empty.insert "revocation" (newList .revocation)).insert "suspension"
    (newList .suspension)
  mdoc := ⟨newTsl 1 (by decide), ∅⟩
  issuerUrl := issuerUrl

variable (X : Crates) (m : StatusManager)

/-- Allocate a status entry for a new credential. -/
def allocateEntry (purpose : StatusPurpose) (draws : List ℕ) :
    Option (Except ManagerError StatusList2021Entry × StatusManager) :=
  let listId := purpose.toString
  match m.lists.get listId with
  | none => some (.error (.listNotFound listId), m)
  | some managed =>
    (drawIndex managed.allocated managed.capacity draws).map fun
      | .error e => (.error e, m)
      | .ok (index, allocated) =>
        (.ok {
          id := X.urlJoin m.issuerUrl ("/status/" ++ listId ++ "#" ++ index.repr)
          entryType := "StatusList2021Entry"
          statusPurpose := purpose
          statusListCredential := X.urlJoin m.issuerUrl ("/status/" ++ listId)
          statusListIndex := index.repr },
        { m with lists := m.lists.insert listId { managed with allocated := allocated } })

/-- The Token Status List value that marks a credential in a list. -/
def statusOf (listId : String) (value : Bool) : TokenStatus :=
  if value then if listId = "revocation" then .invalid else .suspended else .valid

/-- Update status in both list formats. -/
def updateStatus (listId : String) (index : ℕ) (value : Bool) :
    Except (Fault ManagerError) Unit × StatusManager :=
  match m.lists.get listId with
  | none => (.error (.err (.listNotFound listId)), m)
  | some managed =>
    match managed.sl2021.set index value with
    | .error e => (.error (e.map fun e => .listError e.toString), m)
    | .ok sl2021 =>
      let managed := { managed with sl2021 := sl2021 }
      match managed.tsl.setStatus index (statusOf listId value) with
      | .error e => (.error (e.map fun e => .listError e.toString),
          { m with lists := m.lists.insert listId managed })
      | .ok tsl => (.ok (),
          { m with lists := m.lists.insert listId { managed with tsl := tsl } })

def revoke (index : ℕ) : Except (Fault ManagerError) Unit × StatusManager :=
  m.updateStatus "revocation" index true

def suspend (index : ℕ) : Except (Fault ManagerError) Unit × StatusManager :=
  m.updateStatus "suspension" index true

def reinstate (index : ℕ) : Except (Fault ManagerError) Unit × StatusManager :=
  m.updateStatus "suspension" index false

def allocateMdocIndex (draws : List ℕ) : Option (Except ManagerError ℕ × StatusManager) :=
  (drawIndex m.mdoc.allocated listCapacity draws).map fun
    | .error e => (.error e, m)
    | .ok (index, allocated) =>
      (.ok index, { m with mdoc := { m.mdoc with allocated := allocated } })

def revokeMdoc (index : ℕ) : Except (Fault ManagerError) Unit × StatusManager :=
  match m.mdoc.tsl.set index 1 with
  | .error e => (.error (e.map fun e => .listError e.toString), m)
  | .ok tsl => (.ok (), { m with mdoc := { m.mdoc with tsl := tsl } })

def mdocStatusList : Except ManagerError (ℕ × Bytes) := do
  let lst ← (m.mdoc.tsl.compress X).mapError fun e => .listError e.toString
  pure (m.mdoc.tsl.bitsPerStatus, lst)

def buildStatusListCredential (listId issuer : String) (clock : ℤ) :
    Except ManagerError StatusList2021Credential := do
  let managed ← okOr (.listNotFound listId) (m.lists.get listId)
  let encoded ← (managed.sl2021.encode X).mapError fun e => .listError e.toString
  let credentialUrl := X.urlJoin m.issuerUrl ("/status/" ++ listId)
  pure {
    id := credentialUrl
    credentialType := ["VerifiableCredential", "StatusList2021Credential"]
    issuer := issuer
    validFrom := X.rfc3339 clock
    credentialSubject := {
      id := credentialUrl
      subjectType := "StatusList2021"
      statusPurpose := managed.purpose
      encodedList := encoded } }

def buildTokenStatusList (listId : String) :
    Except ManagerError StatusTypes.TokenStatusList := do
  let managed ← okOr (.listNotFound listId) (m.lists.get listId)
  let encoded ← (managed.tsl.encode X).mapError fun e => .listError e.toString
  pure ⟨managed.tsl.bitsPerStatus, encoded⟩

end StatusManager

end Oid4vc.Manager
