import OpenAudio.Core.Content

/-!
# The uptime of other nodes

Every hour a node asks each of its peers for its health and writes the answer to a bucket of that
hour, under the peer's host. The uptime of a host is read from the buckets of the last hours. The
bucket of an hour is shared by all the hosts: it exists as soon as one of them has been polled.
-/

namespace OpenAudio.Uptime

open OpenAudio.Core

/-! ### Recording -/

/-- Times are in nanoseconds. -/
def hour : Int := 3600 * 10 ^ 9

def truncateHour (t : Int) : Int := t - t % hour

/-- The buckets under the start of their hour, each with the statuses under their hosts. -/
abbrev UptimeRecords := Table Int (Table String String)

def maxKeySize : Nat := 32768

/-- The keys the store accepts. -/
def Recordable (host : String) : Prop := host ≠ "" ∧ (textBytes host).length ≤ maxKeySize

instance (host : String) : Decidable (Recordable host) :=
  inferInstanceAs (Decidable (_ ∧ _))

structure HealthPoll where
  time : Int
  host : String
  wasUp : Bool

def HealthPoll.status (p : HealthPoll) : String := if p.wasUp then "1" else "0"

/-- A key that is refused takes the new bucket back with it. -/
def recordNodeUptimeToDB (db : UptimeRecords) (p : HealthPoll) : UptimeRecords :=
  if Recordable p.host then
    let hourKey := truncateHour p.time
    db.insert hourKey (((db.lookup hourKey).getD ∅).insert p.host p.status)
  else db

/-! ### Reading -/

structure UptimeHours where
  upCount : Nat := 0
  totalCount : Nat := 0
  uptimeHours : Table Int Nat := ∅

/-- The hours from `t` down to the start. -/
def windowHours (t startTime : Int) : List Int :=
  if t < startTime then [] else t :: windowHours (t - hour) startTime
termination_by (t - startTime + 1).toNat
decreasing_by
  unfold hour
  omega

def readHour (db : UptimeRecords) (host : String) (u : UptimeHours) (t : Int) : UptimeHours :=
  match db.lookup t with
  | none => u
  | some peerBucket =>
    if peerBucket.lookup host = some "1" then
      ⟨u.upCount + 1, u.totalCount + 1, u.uptimeHours.insert t 1⟩
    else ⟨u.upCount, u.totalCount + 1, u.uptimeHours.insert t 0⟩

variable (rt : GoRuntime)

def normalizeHost (host : String) : String := Server.removeTrailingSlash (rt.toLower host)

def calculateUptime (db : UptimeRecords) (host : String) (now duration : Int) : UptimeHours :=
  let endTime := truncateHour now
  (windowHours endTime (endTime - duration)).foldl (readHour db (normalizeHost rt host)) {}

/-! ### The node -/

structure ServiceEndpoint where
  serviceType : String
  endpoint : String
  delegateWallet : String

structure Peer where
  host : String
  wallet : String

def toPeers (endpoints : List ServiceEndpoint) : List Peer :=
  (endpoints.filter fun ep =>
      rt.equalFold ep.serviceType "content-node" || rt.equalFold ep.serviceType "validator").map
    fun ep => ⟨normalizeHost rt ep.endpoint, rt.toLower ep.delegateWallet⟩

/-- The polls that were recorded are kept beside the store, the last one first. -/
structure Node where
  peers : List Peer
  db : UptimeRecords := ∅
  polls : List HealthPoll := []

def Node.record (n : Node) (p : HealthPoll) : Node :=
  { n with
    db := recordNodeUptimeToDB n.db p
    polls := if Recordable p.host then p :: n.polls else n.polls }

/-- The peers are refreshed at any time, also by a restart. A poll asks every peer at once, so that
the answers come in any order; some are lost if the node stops before they are written. -/
inductive Step : Node → Node → Prop
  | refresh (n : Node) (endpoints : List ServiceEndpoint) :
    Step n { n with peers := toPeers rt endpoints }
  | pollHealth (n : Node) (outcomes : List HealthPoll)
    (h : (outcomes.map HealthPoll.host).Subperm (n.peers.map Peer.host)) :
    Step n (outcomes.foldl Node.record n)

inductive Reachable : Node → Prop
  | start (endpoints : List ServiceEndpoint) : Reachable { peers := toPeers rt endpoints }
  | step {n n' : Node} : Reachable n → Step rt n n' → Reachable n'

/-! ### What the buckets hold -/

/-- The last recorded poll of the host in an hour. -/
def lastPoll (polls : List HealthPoll) (host : String) (t : Int) : Option HealthPoll :=
  polls.find? fun p => p.host = host ∧ truncateHour p.time = t

/-- An hour has a bucket if any host was polled, with the last status of each. -/
structure Holds (n : Node) : Prop where
  bucket : ∀ t, (n.db.lookup t).isSome ↔ ∃ p ∈ n.polls, truncateHour p.time = t
  status : ∀ t host, ((n.db.lookup t).getD ∅).lookup host =
    (lastPoll n.polls host t).map HealthPoll.status

variable {rt}

theorem Holds.record {n : Node} (h : Holds n) (p : HealthPoll) : Holds (n.record p) := by
  unfold Node.record recordNodeUptimeToDB
  by_cases hp : Recordable p.host
  · simp only [if_pos hp]
    refine ⟨fun t => ?_, fun t host => ?_⟩
    · rw [Table.lookup_insert_eq, List.exists_mem_cons_iff]
      by_cases ht : t = truncateHour p.time
      · rw [if_pos ht]
        exact iff_of_true rfl (.inl ht.symm)
      · rw [if_neg ht, h.bucket t]
        exact (or_iff_right (Ne.symm ht)).symm
    · rw [Table.lookup_insert_eq, lastPoll, List.find?_cons]
      by_cases ht : t = truncateHour p.time
      · subst ht
        rw [if_pos rfl, Option.getD_some, Table.lookup_insert_eq]
        by_cases hhost : host = p.host
        · simp [hhost]
        · rw [if_neg hhost, decide_eq_false fun hh => hhost hh.1.symm]
          exact h.status _ host
      · rw [if_neg ht, decide_eq_false fun hh => ht hh.2.symm]
        exact h.status t host
  · simp only [if_neg hp]
    exact h

theorem Holds.foldl_record {n : Node} (h : Holds n) (outcomes : List HealthPoll) :
    Holds (outcomes.foldl Node.record n) := by
  induction outcomes generalizing n with
  | nil => exact h
  | cons p outcomes ih => exact ih (h.record p)

theorem Holds.step {n n' : Node} (h : Holds n) (hstep : Step rt n n') : Holds n' := by
  cases hstep with
  | refresh endpoints => exact ⟨h.bucket, h.status⟩
  | pollHealth outcomes _ => exact h.foldl_record outcomes

theorem Reachable.holds {n : Node} (h : Reachable rt n) : Holds n := by
  induction h with
  | start endpoints => exact ⟨fun t => by simp, fun t host => rfl⟩
  | step _ hstep ih => exact ih.step hstep

/-! ### What is read -/

theorem mem_windowHours {endTime startTime t : Int} (hend : endTime % hour = 0) :
    t ∈ windowHours endTime startTime ↔ t % hour = 0 ∧ startTime ≤ t ∧ t ≤ endTime := by
  fun_induction windowHours endTime startTime with
  | case1 endTime hlt =>
    simp only [List.not_mem_nil, false_iff]
    omega
  | case2 endTime hle ih =>
    unfold hour at *
    rw [List.mem_cons, ih (by omega)]
    omega

section Reads

variable (db : UptimeRecords) (host : String)

/-- The host is found up in the bucket of the hour. -/
def upIn (t : Int) : Bool := ((db.lookup t).getD ∅).lookup host == some "1"

theorem readHour_eq (u : UptimeHours) (t : Int) : readHour db host u t =
    if (db.lookup t).isSome then
      ⟨u.upCount + (upIn db host t).toNat, u.totalCount + 1,
        u.uptimeHours.insert t (upIn db host t).toNat⟩
    else u := by
  unfold readHour upIn
  cases db.lookup t with
  | none => rfl
  | some bucket =>
    by_cases hup : bucket.lookup host = some "1"
    · simp [hup]
    · simp [hup, beq_eq_false_iff_ne.mpr hup]

theorem lookup_foldl_readHour (ts : List Int) (u : UptimeHours) (t : Int) :
    (ts.foldl (readHour db host) u).uptimeHours.lookup t =
      if t ∈ ts ∧ (db.lookup t).isSome then some (upIn db host t).toNat
      else u.uptimeHours.lookup t := by
  induction ts generalizing u with
  | nil => simp
  | cons t' ts ih =>
    rw [List.foldl_cons, ih, readHour_eq]
    by_cases hmem : t ∈ ts ∧ (db.lookup t).isSome
    · rw [if_pos hmem, if_pos ⟨List.mem_cons_of_mem t' hmem.1, hmem.2⟩]
    rw [if_neg hmem]
    by_cases ht : t = t'
    · subst ht
      by_cases hsome : (db.lookup t).isSome
      · rw [if_pos hsome, if_pos ⟨List.mem_cons_self, hsome⟩]
        exact AList.lookup_insert _
      · rw [if_neg hsome, if_neg fun h => hsome h.2]
    · rw [if_neg (c := t ∈ t' :: ts ∧ _) fun h => hmem
        ⟨(List.mem_cons.mp h.1).resolve_left ht, h.2⟩]
      split
      · exact AList.lookup_insert_ne ht
      · rfl

theorem counts_foldl_readHour (ts : List Int) (u : UptimeHours) :
    (ts.foldl (readHour db host) u).totalCount =
        u.totalCount + (ts.filter fun t => (db.lookup t).isSome).length ∧
      (ts.foldl (readHour db host) u).upCount = u.upCount + (ts.filter (upIn db host)).length := by
  induction ts generalizing u with
  | nil => exact ⟨rfl, rfl⟩
  | cons t ts ih =>
    obtain ⟨htotal, hup⟩ := ih (readHour db host u t)
    rw [List.foldl_cons, htotal, hup, readHour_eq, List.filter_cons, List.filter_cons]
    by_cases hsome : (db.lookup t).isSome
    · rw [if_pos hsome, if_pos hsome, List.length_cons]
      refine ⟨Nat.add_right_comm _ 1 _, ?_⟩
      cases upIn db host t with
      | true => exact Nat.add_right_comm _ 1 _
      | false => rfl
    · have hnone := Option.not_isSome_iff_eq_none.mp hsome
      have hdown : upIn db host t = false := by
        rw [upIn, hnone]
        rfl
      rw [if_neg hsome, if_neg hsome, hdown]
      exact ⟨rfl, rfl⟩

end Reads

theorem truncateHour_mod (t : Int) : truncateHour t % hour = 0 := by
  unfold truncateHour hour
  omega

theorem isSome_lastPoll {polls : List HealthPoll} {host : String} {t : Int} :
    (lastPoll polls host t).isSome ↔ ∃ p ∈ polls, p.host = host ∧ truncateHour p.time = t := by
  simp [lastPoll]

theorem Holds.upIn_eq {n : Node} (h : Holds n) (host : String) (t : Int) :
    upIn n.db host t = (lastPoll n.polls host t).any HealthPoll.wasUp := by
  rw [upIn, h.status]
  cases lastPoll n.polls host t with
  | none => rfl
  | some p => cases hup : p.wasUp <;> simp [HealthPoll.status, hup]

/-- Every hour of the window in which some host was polled has a poll of this one. -/
def PolledHourly (rt : GoRuntime) (n : Node) (host : String) (now duration : Int) : Prop :=
  ∀ p ∈ n.polls, truncateHour now - duration ≤ truncateHour p.time →
    truncateHour p.time ≤ truncateHour now →
    ∃ q ∈ n.polls, q.host = normalizeHost rt host ∧ truncateHour q.time = truncateHour p.time

/-- The hours that are reported are the ones in which the host was polled, with what its last poll
found. -/
def ReportsPolls (rt : GoRuntime) (n : Node) (host : String) (now duration : Int) : Prop :=
  let u := calculateUptime rt n.db host now duration
  let endTime := truncateHour now
  let last := lastPoll n.polls (normalizeHost rt host)
  (∀ t, u.uptimeHours.lookup t =
    if t % hour = 0 ∧ endTime - duration ≤ t ∧ t ≤ endTime then
      (last t).map fun p => p.wasUp.toNat
    else none) ∧
  u.totalCount =
    ((windowHours endTime (endTime - duration)).filter fun t => (last t).isSome).length ∧
  u.upCount = ((windowHours endTime (endTime - duration)).filter fun t =>
    (last t).any HealthPoll.wasUp).length

theorem reportsPolls_of_polledHourly {n : Node} (hholds : Holds n) {host : String} {now duration : Int}
    (hpolled : PolledHourly rt n host now duration) : ReportsPolls rt n host now duration := by
  unfold ReportsPolls
  intro u endTime last
  have hwindow (t : Int) : t ∈ windowHours endTime (endTime - duration) ↔
      t % hour = 0 ∧ endTime - duration ≤ t ∧ t ≤ endTime := mem_windowHours (truncateHour_mod now)
  -- in the window a bucket exists exactly if the host was polled
  have hbucket (t : Int) (ht : t ∈ windowHours endTime (endTime - duration)) :
      (n.db.lookup t).isSome ↔ (last t).isSome := by
    rw [hholds.bucket, isSome_lastPoll]
    constructor
    · rintro ⟨p, hp, rfl⟩
      obtain ⟨-, hlow, hhigh⟩ := (hwindow _).mp ht
      exact hpolled p hp hlow hhigh
    · exact fun ⟨q, hq, _, htime⟩ => ⟨q, hq, htime⟩
  obtain ⟨htotal, hup⟩ := counts_foldl_readHour n.db (normalizeHost rt host)
    (windowHours endTime (endTime - duration)) {}
  refine ⟨fun t => ?_, htotal.trans ?_, hup.trans ?_⟩
  · refine (lookup_foldl_readHour _ _ _ _ t).trans ?_
    by_cases hmem : t ∈ windowHours endTime (endTime - duration)
    · rw [if_pos ((hwindow t).mp hmem), hholds.upIn_eq]
      cases hlast : last t with
      | none => exact if_neg fun hh => by simpa [hlast] using (hbucket t hmem).mp hh.2
      | some p =>
        rw [if_pos ⟨hmem, (hbucket t hmem).mpr (by rw [hlast]; rfl)⟩]
        exact congrArg (fun o => some (Option.any HealthPoll.wasUp o).toNat) hlast
    · rw [if_neg fun hh => hmem hh.1, if_neg fun hh => hmem ((hwindow t).mpr hh)]
      rfl
  · rw [Nat.zero_add]
    exact congrArg List.length (List.filter_congr fun t ht => Bool.eq_iff_iff.mpr (hbucket t ht))
  · rw [Nat.zero_add]
    exact congrArg List.length (List.filter_congr fun t _ => hholds.upIn_eq _ t)

/-- The report is of the polls of the host exactly if the host was polled in every hour of the window
in which some host was. -/
theorem calculateUptime_reports_iff {n : Node} (h : Reachable rt n) (host : String)
    (now duration : Int) :
    ReportsPolls rt n host now duration ↔ PolledHourly rt n host now duration := by
  refine ⟨?_, reportsPolls_of_polledHourly h.holds⟩
  rintro ⟨hhours, -⟩ p hp hlow hhigh
  have hwindow := And.intro (truncateHour_mod p.time) (And.intro hlow hhigh)
  have hsome := (h.holds.bucket (truncateHour p.time)).mpr ⟨p, hp, rfl⟩
  have hhour := (lookup_foldl_readHour _ _ _ _ _).symm.trans (hhours (truncateHour p.time))
  rw [if_pos ⟨(mem_windowHours (truncateHour_mod now)).mpr hwindow, hsome⟩, if_pos hwindow] at hhour
  obtain ⟨q, hq, -⟩ := Option.map_eq_some_iff.mp hhour.symm
  exact isSome_lastPoll.mp (Option.isSome_of_eq_some hq)

section Newcomer

/-- Two nodes of which the second registers an hour later. -/
def veteran : ServiceEndpoint := ⟨"validator", "http://a", "0xa"⟩

def newcomer : ServiceEndpoint := ⟨"validator", "http://b", "0xb"⟩

def firstPoll : Node :=
  [⟨0, "http://a", true⟩].foldl Node.record { peers := toPeers .amd64 [veteran] }

def secondPoll : Node :=
  [⟨hour, "http://a", true⟩, ⟨hour, "http://b", true⟩].foldl Node.record
    { firstPoll with peers := toPeers .amd64 [veteran, newcomer] }

theorem reachable_secondPoll : Reachable .amd64 secondPoll := by
  have hfirst : Reachable .amd64 firstPoll :=
    .step (.start [veteran]) (.pollHealth _ _ (List.Perm.subperm (by decide)))
  exact .step (.step hfirst (.refresh _ [veteran, newcomer]))
    (.pollHealth _ _ (List.Perm.subperm (by decide)))

theorem polls_secondPoll : secondPoll.polls =
    [⟨hour, "http://b", true⟩, ⟨hour, "http://a", true⟩, ⟨0, "http://a", true⟩] := by
  have ha : Recordable "http://a" := ⟨by decide, by rw [textBytes_eq]; decide⟩
  have hb : Recordable "http://b" := ⟨by decide, by rw [textBytes_eq]; decide⟩
  simp [secondPoll, firstPoll, Node.record, ha, hb]

theorem calculateUptime_reports_veteran :
    (calculateUptime .amd64 secondPoll.db "http://a" hour hour).uptimeHours.lookup 0 = some 1 := by
  have hpolled : PolledHourly .amd64 secondPoll "http://a" hour hour := by
    rw [PolledHourly, polls_secondPoll]
    decide
  have hreports := (calculateUptime_reports_iff reachable_secondPoll "http://a" hour hour).mpr hpolled
  rw [ReportsPolls, polls_secondPoll] at hreports
  exact (hreports.1 0).trans (by decide)

/-- The newcomer was not polled in the first hour, which is counted against it. -/
theorem newcomer_down_before_registration :
    Reachable .amd64 secondPoll ∧
    lastPoll secondPoll.polls (normalizeHost .amd64 "http://b") 0 = none ∧
    (calculateUptime .amd64 secondPoll.db "http://b" hour hour).uptimeHours.lookup 0 = some 0 ∧
    (calculateUptime .amd64 secondPoll.db "http://b" hour hour).totalCount = 2 ∧
    (calculateUptime .amd64 secondPoll.db "http://b" hour hour).upCount = 1 := by
  have hholds := reachable_secondPoll.holds
  have hwindow : windowHours (truncateHour hour) (truncateHour hour - hour) = [hour, 0] := by
    rw [windowHours, if_neg (by decide), windowHours, if_neg (by decide), windowHours,
      if_pos (by decide)]
    rfl
  have hbucket (t : Int) (ht : t ∈ [hour, 0]) : (secondPoll.db.lookup t).isSome := by
    rw [hholds.bucket, polls_secondPoll]
    revert t
    decide
  obtain ⟨htotal, hup⟩ := counts_foldl_readHour secondPoll.db (normalizeHost .amd64 "http://b")
    [hour, 0] {}
  simp only [calculateUptime, hwindow, lookup_foldl_readHour, htotal, hup, hholds.upIn_eq,
    List.filter_eq_self.mpr hbucket, funext (hholds.upIn_eq _)]
  rw [polls_secondPoll, if_pos ⟨by decide, hbucket 0 (by decide)⟩]
  exact ⟨reachable_secondPoll, by decide, by decide, rfl, by decide⟩

end Newcomer

end OpenAudio.Uptime
