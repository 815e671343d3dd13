import AccountLedger.Outbox.Delivery
import AccountLedger.Proofs.Delivery.Attempt
import AccountLedger.Proofs.Ledger.Office

/-!
Deliveries and sweeps beside the calls of the ledger service, over one in-memory store. Couriers
deliver one entry or sweep; whatever they ask for is answered in a single step, with steps of the
calls and of other couriers in between, and what the broker answers is left open.
-/

namespace AccountLedger

/-- What a courier is sent out for. -/
inductive Job where
  | delivery (entry : OutboxEntry)
  | sweep (policy : SweepPolicy)

/-- What a courier comes back with. -/
abbrev Round : Type := Except OutboxError DeliveryStatus ⊕ Except SweepError SweepReport

def Job.program (sendTimeoutMs : Nat) : Job → Program service Round
  | .delivery entry => Sum.inl <$> entry.deliver sendTimeoutMs
  | .sweep policy => Sum.inr <$> (AccountLedger.sweep policy sendTimeoutMs).run

/-- What a courier has met with: the broker's answer to the entry it has sent last, the failed and
the stale entries it was given to deliver again, and the entries whose attempts it has recorded. -/
structure Tour where
  heard : Option (Uuid × Except BrokerError Unit)
  failed : Option (List OutboxEntry)
  stale : Option (List OutboxEntry)
  recorded : List Uuid

namespace Tour

def start : Tour := ⟨none, none, none, []⟩

/-- Whether the entry is the one sent last and the broker has accepted it. -/
def accepted (tour : Tour) (id : Uuid) : Bool :=
  tour.heard.any fun heard => heard.1 == id && heard.2.toBool

/-- The tour after an answer. -/
def after (tour : Tour) : (request : ServiceRequest) → request.Answer → Tour
  | .host (.send entry _), answer => { tour with heard := some (entry.id, answer) }
  | .table (.listByStatus ..), .ok entries => { tour with failed := some entries }
  | .table (.listStale ..), .ok entries => { tour with stale := some entries }
  | .table (.recordAttempt id _ _), _ =>
    { tour with heard := none, recorded := tour.recorded ++ [id] }
  | _, _ => tour

end Tour

structure Courier where
  job : Job
  rest : Program service Round
  tour : Tour

def Courier.sent (job : Job) (sendTimeoutMs : Nat) : Courier :=
  ⟨job, job.program sendTimeoutMs, .start⟩

namespace Tables

/-- What a request to the tables may be answered. Entries of the same rank may be listed in any
order. -/
inductive Answers (tables : Tables) : (request : TableRequest) → request.Answer → Prop
  | listByStatus {order : List OutboxEntry} (status limit) : order.Perm tables.outbox.rows →
    Answers tables (.listByStatus status limit) (.ok (takeFirst limit
      ((order.filter fun entry => entry.status == status).mergeSort lessAttemptedFirst)))
  | listStale {order : List OutboxEntry} (createdBefore limit) : order.Perm tables.outbox.rows →
    Answers tables (.listStale createdBefore limit) (.ok (takeFirst limit
      ((order.filter (isStale createdBefore)).mergeSort olderFirst)))
  | asStored (request) : Answers tables request (tables.answer request).1

/-- The attempt that a request records, if the entry is stored. -/
def attempt? (tables : Tables) (tour : Tour) : TableRequest → Option Attempt
  | .recordAttempt id _ time => (tables.outbox.find? id).map fun _ => ⟨id, tour.accepted id, time⟩
  | _ => none

end Tables

/-- An office with all couriers sent out so far and all attempts recorded so far. -/
structure Postroom where
  office : Office
  couriers : Nat → Option Courier
  attempts : List Attempt

namespace Postroom

def start : Postroom := ⟨Office.start, fun _ => none, []⟩

def tables (postroom : Postroom) : Tables := postroom.office.tables

def withCourier (postroom : Postroom) (id : Nat) (courier : Courier) : Postroom :=
  { postroom with couriers := Function.update postroom.couriers id (some courier) }

/-- The host answers a courier. -/
def hosted (postroom : Postroom) (id : Nat) (courier : Courier) (request : HostRequest)
    (resume : request.Answer → Program service Round) (answer : request.Answer) : Postroom :=
  postroom.withCourier id { courier with
    rest := resume answer
    tour := courier.tour.after (.host request) answer }

/-- The store answers a courier. -/
def tabled (postroom : Postroom) (id : Nat) (courier : Courier) (request : TableRequest)
    (resume : request.Answer → Program service Round) (answer : request.Answer) : Postroom :=
  { postroom.withCourier id { courier with
      rest := resume answer
      tour := courier.tour.after (.table request) answer } with
    office := postroom.office.withPool (postroom.office.pool.tabled request)
    attempts := postroom.attempts ++ (postroom.tables.attempt? courier.tour request).toList }

variable (postroom : Postroom)

/-- Nobody but the couriers records attempts: where the office changes the outbox, it commits. -/
inductive Step : Postroom → Prop
  | ledger {office} : postroom.office.Step office →
    office.tables.outbox = postroom.tables.outbox ∨
      office.pool.log ≠ postroom.office.pool.log →
    Step { postroom with office }
  | send {id} (job sendTimeoutMs) : postroom.couriers id = none →
    Step (postroom.withCourier id (.sent job sendTimeoutMs))
  | host {id courier request resume} (answer) : postroom.couriers id = some courier →
    courier.rest = .ask (.host request) resume →
    Step (postroom.hosted id courier request resume answer)
  | table {id courier request resume answer} : postroom.couriers id = some courier →
    courier.rest = .ask (.table request) resume → postroom.tables.Answers request answer →
    Step (postroom.tabled id courier request resume answer)

/-- What an empty store can come to. -/
def Reachable (postroom : Postroom) : Prop := Relation.ReflTransGen Step start postroom

end Postroom

end AccountLedger
