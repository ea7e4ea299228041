import QueryDesk.Proofs.Snapshot.Separate
import QueryDesk.Proofs.Time.Instant

namespace QueryDesk

namespace Snapshot

inductive Mark where
  | stored (e : Entry View)
  | sought (key : Text) (now : Instant)
  | cleared

/-- The latest entry that was stored under a key and not cleared since. The latest mark comes
    first. -/
def latest? : List Mark → Text → Option (Entry View)
  | [], _ | .cleared :: _, _ => none
  | .stored e :: rest, key => if e.key = key then some e else latest? rest key
  | .sought _ _ :: rest, key => latest? rest key

/-- Whether the latest entry under a key was sought when it had expired. -/
def foundExpired : List Mark → Text → Bool
  | [], _ | .cleared :: _, _ => false
  | .stored e :: rest, key => if e.key = key then false else foundExpired rest key
  | .sought sought now :: rest, key =>
    (sought == key && (latest? rest key).any (·.isExpired now)) || foundExpired rest key

def storedKeys : List Mark → List Text
  | [] | .cleared :: _ => []
  | .stored e :: rest =>
    if e.key ∈ storedKeys rest then storedKeys rest else e.key :: storedKeys rest
  | .sought _ _ :: rest => storedKeys rest

def Mark.isStored : Mark → Bool
  | .stored _ => true
  | .sought _ _ | .cleared => false

/-- The time, and what has been marked so far, the latest first. -/
structure Ledger where
  now : Instant
  marks : List Mark

namespace Ledger

def start : Ledger := ⟨sessionStart, []⟩

/-- The entry that a session is to store for a deposit: what its result looks like now, until its own
    lifetime or else the usual one has passed. -/
def entry? (l : Ledger) (s : Session) (d : Deposit) : Except Failure (Entry View) := do
  let _ ← s.copy d.result
  let lifetime ← d.lifetime.getD s.usual
  let expires ← (l.now.after lifetime).mapError .time
  .ok ⟨l.marks.countP Mark.isStored, d.key, d.sql, s.memory.view d.result, d.source, l.now, expires⟩

def visit (l : Ledger) (s : Session) : Visit → Ledger
  | .keep d =>
    match l.entry? s d with
    | .ok e => { l with marks := .stored e :: l.marks }
    | .error _ => l
  | .lookup key => { l with marks := .sought key l.now :: l.marks }
  | .clear => { l with marks := .cleared :: l.marks }
  | .advance seconds =>
    match Session.later l.now seconds with
    | .ok now => { l with now }
    | .error _ => l
  | _ => l

def after (l : Ledger) (s : Session) : List Visit → Ledger
  | [] => l
  | v :: rest => (l.visit s v).after (s.visit v).2 rest

def current? (l : Ledger) (key : Text) : Option (Entry View) :=
  (latest? l.marks key).filter (l.now < ·.expires)

/-- The number of keys less those whose latest entry has been found expired. -/
def size (l : Ledger) : Nat := ((storedKeys l.marks).filter (!foundExpired l.marks ·)).length

end Ledger

/-- A visit that does not turn the clock back. -/
def Visit.Forward : Visit → Prop
  | .advance (.ok seconds) => ∀ micros, seconds.micros = .ok micros → 0 ≤ micros
  | _ => True

def Session.after (s : Session) (visits : List Visit) : Session :=
  visits.foldl (fun s v => (s.visit v).2) s

theorem isSome_latest?_iff {marks : List Mark} {key : Text} :
    (latest? marks key).isSome = true ↔ key ∈ storedKeys marks := by
  induction marks with
  | nil => simp [latest?, storedKeys]
  | cons mark rest ih =>
    cases mark with
    | cleared => simp [latest?, storedKeys]
    | sought sought now => exact ih
    | stored e =>
      by_cases own : e.key = key
      · by_cases known : e.key ∈ storedKeys rest <;> simp_all [latest?, storedKeys]
      · have ne : key ≠ e.key := Ne.symm own
        by_cases known : e.key ∈ storedKeys rest <;> simp [latest?, storedKeys, own, ne, known, ih]

theorem nodup_storedKeys (marks : List Mark) : (storedKeys marks).Nodup := by
  induction marks with
  | nil => exact List.nodup_nil
  | cons mark rest ih =>
    cases mark with
    | cleared => exact List.nodup_nil
    | sought sought now => exact ih
    | stored e =>
      unfold storedKeys
      split
      · exact ih
      · rename_i new
        exact List.nodup_cons.mpr ⟨new, ih⟩

theorem foundExpired_sought_self {marks : List Mark} {key : Text} {now : Instant} :
    foundExpired (.sought key now :: marks) key =
      ((latest? marks key).any (·.isExpired now) || foundExpired marks key) := by
  simp only [foundExpired, beq_self_eq_true, Bool.true_and]

theorem foundExpired_sought_of_ne {marks : List Mark} {key other : Text} {now : Instant}
    (ne : other ≠ key) :
    foundExpired (.sought key now :: marks) other = foundExpired marks other := by
  have apart : (key == other) = false := beq_eq_false_iff_ne.mpr ne.symm
  simp only [foundExpired, apart, Bool.false_and, Bool.false_or]

structure Store.Agrees (s : Store View) (l : Ledger) : Prop where
  serial : s.nextSerial = l.marks.countP Mark.isStored
  found : ∀ key, s.entries.find? key =
    if foundExpired l.marks key then none else latest? l.marks key
  ended : ∀ key e, foundExpired l.marks key = true → latest? l.marks key = some e →
    e.expires ≤ l.now
  distinct : s.entries.keys.Nodup

namespace Store.Agrees

variable {s : Store View} {l : Ledger}

theorem alive_eq (agrees : s.Agrees l) (key : Text) : s.alive l.now key = l.current? key := by
  have live (e : Entry View) : (!e.isExpired l.now) = decide (l.now < e.expires) := by
    by_cases expired : e.expires ≤ l.now
    · simp [Entry.isExpired, expired, Instant.not_lt.mpr expired]
    · simp [Entry.isExpired, expired, Instant.not_le.mp expired]
  unfold alive Ledger.current?
  rw [agrees.found key]
  cases gone : foundExpired l.marks key with
  | false => simp only [Bool.false_eq_true, if_false, live]
  | true =>
    -- what has been found expired stays so
    cases last : latest? l.marks key with
    | none => rfl
    | some e => simp [Option.filter, Instant.not_lt.mpr (agrees.ended key e gone last)]

theorem size_eq (agrees : s.Agrees l) : s.size = l.size := by
  have members : s.entries.keys.Perm ((storedKeys l.marks).filter (!foundExpired l.marks ·)) := by
    refine (List.perm_ext_iff_of_nodup agrees.distinct ((nodup_storedKeys _).filter _)).mpr ?_
    intro key
    rw [← OrderedMap.isSome_find?_iff, agrees.found key, List.mem_filter, ← isSome_latest?_iff]
    cases foundExpired l.marks key <;> simp
  have entries : s.size = s.entries.keys.length := by simp [size, OrderedMap.keys]
  exact entries.trans members.length_eq

theorem sought_serial (agrees : s.Agrees l) (key : Text) :
    s.nextSerial = (Mark.sought key l.now :: l.marks).countP Mark.isStored := by
  simp [agrees.serial, Mark.isStored]

theorem later (agrees : s.Agrees l) {now : Instant} (order : l.now ≤ now) :
    s.Agrees { l with now } :=
  ⟨agrees.serial, agrees.found,
    fun key e gone last => Instant.le_trans (agrees.ended key e gone last) order, agrees.distinct⟩

theorem clear (agrees : s.Agrees l) : s.clear.Agrees { l with marks := .cleared :: l.marks } :=
  ⟨agrees.serial.trans (by simp [Mark.isStored]), fun _ => rfl, by simp [foundExpired],
    List.nodup_nil⟩

theorem drop (agrees : s.Agrees l) {key : Text} {e : Entry View} (there : s.entries.find? key = some e)
    (expired : e.isExpired l.now = true) :
    ({ s with entries := s.entries.erase key } : Store View).Agrees
      { l with marks := .sought key l.now :: l.marks } := by
  have last : latest? l.marks key = some e := by
    have kept := agrees.found key
    rw [there] at kept
    split at kept
    · cases kept
    · exact kept.symm
  refine ⟨agrees.sought_serial key, fun other => ?_, fun other f gone latest => ?_,
    OrderedMap.nodup_keys_erase agrees.distinct key⟩
  · by_cases same : other = key
    · subst same
      rw [foundExpired_sought_self, last, OrderedMap.find?_erase_self]
      simp [expired]
    · rw [foundExpired_sought_of_ne same, OrderedMap.find?_erase_of_ne _ same]
      exact agrees.found other
  · by_cases same : other = key
    · subst same
      cases last.symm.trans latest
      exact Entry.isExpired_iff.mp expired
    · rw [foundExpired_sought_of_ne same] at gone
      exact agrees.ended other f gone latest

theorem stay (agrees : s.Agrees l) {key : Text}
    (fresh : ∀ e, s.entries.find? key = some e → e.isExpired l.now = false) :
    s.Agrees { l with marks := .sought key l.now :: l.marks } := by
  have same : ∀ other,
      foundExpired (.sought key l.now :: l.marks) other = foundExpired l.marks other := by
    intro other
    by_cases this : other = key
    · subst this
      cases gone : foundExpired l.marks other with
      | true => rw [foundExpired_sought_self, gone, Bool.or_true]
      | false =>
        have kept := agrees.found other
        rw [gone, if_neg (by simp)] at kept
        rw [foundExpired_sought_self, gone, Bool.or_false, ← kept]
        cases there : s.entries.find? other with
        | none => rfl
        | some e => exact fresh e there
    · exact foundExpired_sought_of_ne this
  refine ⟨agrees.sought_serial key, fun other => ?_, fun other e gone last => ?_, agrees.distinct⟩
  · rw [same]
    exact agrees.found other
  · rw [same] at gone
    exact agrees.ended other e gone last

theorem lookup (agrees : s.Agrees l) (key : Text) :
    (s.lookup l.now key).2.Agrees { l with marks := .sought key l.now :: l.marks } := by
  unfold Store.lookup
  cases there : s.entries.find? key with
  | none => exact agrees.stay fun e found => absurd (there.symm.trans found) (by simp)
  | some e =>
    cases expired : e.isExpired l.now with
    | true =>
      simp only [expired, if_true]
      exact agrees.drop there expired
    | false =>
      simp only [expired, Bool.false_eq_true, if_false]
      refine agrees.stay fun f found => ?_
      cases there.symm.trans found
      exact expired

theorem keep (agrees : s.Agrees l) {e : Entry View} (key : Text) (own : e.key = key) :
    ({ s with entries := s.entries.insert key e, nextSerial := s.nextSerial + 1 } :
      Store View).Agrees
      { l with marks := .stored e :: l.marks } := by
  subst own
  refine ⟨by rw [List.countP_cons, agrees.serial]; rfl, fun key => ?_, fun key f gone last => ?_,
    OrderedMap.nodup_keys_insert agrees.distinct _ _⟩
  · by_cases same : e.key = key
    · subst same
      simp [foundExpired, latest?]
    · simp only [foundExpired, latest?, same, if_false]
      rw [OrderedMap.find?_insert_of_ne _ _ (Ne.symm same)]
      exact agrees.found key
  · by_cases same : e.key = key
    · simp [foundExpired, same] at gone
    · simp only [foundExpired, latest?, same, if_false] at gone last
      exact agrees.ended key f gone last

end Store.Agrees

namespace Session

variable {s : Session} {l : Ledger}

structure Follows (s : Session) (l : Ledger) : Prop where
  now : s.now = l.now
  separate : s.Separate
  contents : s.contents.Agrees l

theorem follows_start (usual : Except Failure Seconds) (fits : Memory → Nat → Bool) :
    (start usual fits).Follows .start :=
  ⟨rfl, separate_start usual fits, rfl, fun _ => rfl, by simp [Ledger.start, foundExpired],
    List.nodup_nil⟩

theorem le_of_later {now next : Instant} {seconds : Except Failure Seconds}
    (forward : (Visit.advance seconds).Forward) (moved : later now seconds = .ok next) :
    now ≤ next := by
  obtain ⟨given, same, sum⟩ := bind_eq_ok.mp moved
  subst same
  cases after : now.after given with
  | ok j =>
    rw [after] at sum
    cases sum
    exact Instant.le_after forward after
  | error fault =>
    rw [after] at sum
    cases sum

theorem visit_keep {d : Deposit} {copied : Nat × Memory} {lifetime : Seconds} {expires : Instant}
    {e : Entry Nat} (copying : s.copy d.result = .ok copied)
    (lasts : d.lifetime.getD s.usual = .ok lifetime) (ends : s.now.after lifetime = .ok expires)
    (parts : e = ⟨s.store.nextSerial, d.key, d.sql, copied.1, d.source, s.now, expires⟩) :
    s.visit (.keep d) = (.ok (.entry (some e)),
      { s with memory := copied.2
               store := { s.store with entries := s.store.entries.insert d.key e
                                       nextSerial := s.store.nextSerial + 1 }
               handed := e :: s.handed }) := by
  subst parts
  simp only [Session.visit, copying, Session.keep, lasts, Store.keep, ends, Option.getD_some,
    Except.mapError, Bind.bind, Except.bind]

theorem now_visit_keep (s : Session) (d : Deposit) : (s.visit (.keep d)).2.now = s.now := by
  simp only [Session.visit]
  split
  · rfl
  · split <;> rfl

/-- What comes of a deposit: an entry that looks as it is to, or an error that leaves all that is
    kept as it was. -/
theorem Follows.keep (follows : s.Follows l) (d : Deposit) :
    match l.entry? s d with
    | .ok e => ∃ entry, (s.visit (.keep d)).1 = .ok (.entry (some entry)) ∧
        entry.map (s.visit (.keep d)).2.memory.view = e ∧ e.key = d.key ∧
        (s.visit (.keep d)).2.contents =
          { s.contents with entries := s.contents.entries.insert d.key e
                            nextSerial := s.contents.nextSerial + 1 }
    | .error failure => (s.visit (.keep d)).1 = .error failure ∧
        (s.visit (.keep d)).2.contents = s.contents := by
  have serial : s.store.nextSerial = l.marks.countP Mark.isStored := follows.contents.serial
  unfold Ledger.entry?
  cases copying : s.copy d.result with
  | error failure =>
    simp only [Session.visit, copying, Bind.bind, Except.bind]
    exact ⟨trivial, trivial⟩
  | ok copied =>
    obtain ⟨rfl, inside⟩ := copy_eq_ok copying
    have unchanged : ({ s with memory := (s.memory.copy d.result).2 } : Session).contents =
        s.contents := follows.separate.contents_eq rfl Memory.spares_copy
    cases lasts : d.lifetime.getD s.usual with
    | error failure =>
      simp only [Session.visit, copying, Session.keep, lasts, Bind.bind, Except.bind]
      exact ⟨trivial, unchanged⟩
    | ok lifetime =>
      rw [← follows.now]
      cases ends : s.now.after lifetime with
      | error fault =>
        simp only [Session.visit, copying, Session.keep, lasts, Store.keep, Option.getD_some, ends,
          Except.mapError, Bind.bind, Except.bind]
        exact ⟨trivial, unchanged⟩
      | ok expires =>
        obtain ⟨e, parts⟩ : ∃ e : Entry Nat, e = ⟨s.store.nextSerial, d.key, d.sql,
          (s.memory.copy d.result).1, d.source, s.now, expires⟩ := ⟨_, rfl⟩
        have seen : e.map (s.memory.copy d.result).2.view = ⟨l.marks.countP Mark.isStored, d.key,
            d.sql, s.memory.view d.result, d.source, s.now, expires⟩ := by
          simp only [parts, Entry.map, serial,
            Memory.view_copy follows.separate.parted.sound inside]
        rw [visit_keep copying lasts ends parts]
        simp only [ends, Except.mapError, Bind.bind, Except.bind, ← seen]
        refine ⟨e, rfl, rfl, by rw [parts]; rfl, ?_⟩
        rw [← unchanged]
        simp only [Session.contents, Store.map, OrderedMap.insert_mapValues]

theorem Follows.visit (follows : s.Follows l) {v : Visit} (forward : v.Forward) :
    (s.visit v).2.Follows (l.visit s v) := by
  obtain ⟨separate, spares⟩ := follows.separate.visit v
  -- a visit that leaves the store and the clock alone leaves what is kept alone
  have idle (same : (s.visit v).2.store = s.store) (now : (s.visit v).2.now = s.now) :
      (s.visit v).2.Follows l := by
    refine ⟨now.trans follows.now, separate, ?_⟩
    rw [follows.separate.contents_eq same spares]
    exact follows.contents
  cases v with
  | keep d =>
    have kept := follows.keep d
    have now : (s.visit (.keep d)).2.now = l.now := follows.now ▸ now_visit_keep s d
    simp only [Ledger.visit]
    cases entered : l.entry? s d with
    | error failure =>
      rw [entered] at kept
      refine ⟨now, separate, ?_⟩
      rw [kept.2]
      exact follows.contents
    | ok e =>
      rw [entered] at kept
      obtain ⟨_, _, _, own, contents⟩ := kept
      refine ⟨now, separate, ?_⟩
      rw [contents]
      exact follows.contents.keep d.key own
  | lookup key =>
    refine ⟨follows.now, separate, ?_⟩
    have dropped := follows.contents.lookup key
    rw [← follows.now, Session.contents, Store.lookup_map] at dropped
    simp only [Ledger.visit, ← follows.now]
    exact dropped
  | advance seconds =>
    simp only [Session.visit, Ledger.visit, ← follows.now] at separate idle ⊢
    cases moved : later s.now seconds with
    | error failure => exact follows
    | ok next =>
      rw [moved] at separate
      refine ⟨rfl, separate, follows.contents.later ?_⟩
      rw [← follows.now]
      exact le_of_later forward moved
  | clear => exact ⟨follows.now, separate, follows.contents.clear⟩
  | make _ | change _ _ | snapshot _ =>
    exact idle (by simp only [Session.visit]; split <;> rfl)
      (by simp only [Session.visit]; split <;> rfl)
  | size | isExpired _ _ | assign _ _ => exact idle rfl rfl

theorem Follows.after (follows : s.Follows l) {visits : List Visit}
    (forward : ∀ v ∈ visits, v.Forward) : (s.after visits).Follows (l.after s visits) := by
  induction visits generalizing s l with
  | nil => exact follows
  | cons v rest ih =>
    exact ih (follows.visit (forward v (by simp))) fun w later => forward w (by simp [later])

theorem entry?_whole_iff {d : Deposit} {copied : Nat × Memory} {n : Int} {e : Entry View}
    (copying : s.copy d.result = .ok copied) (lasts : d.lifetime.getD s.usual = .ok (.whole n)) :
    l.entry? s d = .ok e ↔ (e.expires.micros : Int) = l.now.micros + n * 1000000 ∧
      e = ⟨l.marks.countP Mark.isStored, d.key, d.sql, s.memory.view d.result, d.source, l.now,
        e.expires⟩ := by
  simp only [Ledger.entry?, copying, lasts, Bind.bind, Except.bind]
  rw [← Instant.after_whole_iff]
  cases ends : l.now.after (.whole n) with
  | error fault => simp [Except.mapError]
  | ok expires =>
    simp only [Except.mapError, Except.ok.injEq]
    constructor
    · rintro rfl
      exact ⟨rfl, rfl⟩
    · rintro ⟨rfl, parts⟩
      exact parts.symm

/-- After any visits that do not turn the clock back, a look-up answers the latest entry that was
    stored under its key since the store was last cleared, if it has not expired, and everything in
    its result looks as it did when it was stored, whatever callers have done since to what they
    hold. What is kept from now on is marked; a whole lifetime of any size ends that many seconds
    later, and what cannot be kept for it leaves all that is kept as it was. -/
theorem refines_ledger (usual : Except Failure Seconds) (fits : Memory → Nat → Bool)
    (visits : List Visit) (forward : ∀ v ∈ visits, v.Forward) :
    let s := (start usual fits).after visits
    let l := Ledger.start.after (start usual fits) visits
    (∀ key, ∃ found, (s.visit (.lookup key)).1 = .ok (.entry found) ∧
      found.map (Entry.map s.memory.view) = l.current? key) ∧
    (s.visit .size).1 = .ok (.number l.size) ∧
    (∀ d, match l.entry? s d with
      | .ok e => ∃ entry, (s.visit (.keep d)).1 = .ok (.entry (some entry)) ∧
          entry.map (s.visit (.keep d)).2.memory.view = e
      | .error failure => (s.visit (.keep d)).1 = .error failure ∧
          (s.visit (.keep d)).2.contents = s.contents) ∧
    ∀ d copied n, s.copy d.result = .ok copied → d.lifetime.getD s.usual = .ok (.whole n) →
      ∀ e, l.entry? s d = .ok e ↔ (e.expires.micros : Int) = l.now.micros + n * 1000000 ∧
        e = ⟨l.marks.countP Mark.isStored, d.key, d.sql, s.memory.view d.result, d.source, l.now,
          e.expires⟩ := by
  intro s l
  have follows : s.Follows l := (follows_start usual fits).after forward
  refine ⟨fun key => ?_, ?_, fun d => ?_, fun d copied n copying lasts e => ?_⟩
  · refine ⟨_, rfl, ?_⟩
    have seen := congrArg Prod.fst (Store.lookup_map s.memory.view s.store s.now key)
    exact seen.symm.trans ((Store.lookup_fst s.contents s.now key).trans
      (by rw [follows.now, follows.contents.alive_eq]))
  · have answered : (s.visit .size).1 = .ok (.number s.store.size) := rfl
    rw [answered, ← follows.contents.size_eq, contents, Store.size_map]
  · have kept := follows.keep d
    cases entered : l.entry? s d with
    | error failure =>
      rw [entered] at kept
      exact kept
    | ok e =>
      rw [entered] at kept
      obtain ⟨entry, answered, seen, _⟩ := kept
      exact ⟨entry, answered, seen⟩
  · exact entry?_whole_iff copying lasts

/-- A result of one cell, which lies at address 3, is kept, and the cell is then overwritten; another
    cannot be kept since its life would end too late; the overwritten result has expired as soon as
    it is kept, and is dropped when it is sought; and a snapshot of the first is overwritten, too. -/
theorem refines_ledger_lazily :
    let result : List Object := [.value (.text "n"), .list [0], .value (.int 1), .list [2],
      .list [3], .value (.int 1), .value (.bool false), .result 1 4 5 6]
    let deposit (key : Text) (n : Int) : Deposit :=
      ⟨key, "SELECT 1", 7, none, some (.ok (.whole n))⟩
    let visits : List Visit := result.map Visit.make ++ [.keep (deposit "a" 5), .change 3 (.list []),
      .keep (deposit "b" 1000000000000000000), .keep (deposit "c" (-1)), .snapshot 1,
      .advance (.ok (.whole 3)), .lookup "c"]
    let s := (start (.ok (.whole 300)) fun _ _ => true).after visits
    (∀ v ∈ visits, v.Forward) ∧
    (∃ found, (s.visit (.lookup "a")).1 = .ok (.entry found) ∧
      found.map (Entry.map fun a => (s.memory.read 4 a).printed) =
        some ⟨0, "a", "SELECT 1", "(['n'], [[1]], 1, False)", none, sessionStart,
          ⟨738885 * microsPerDay + 5000000, by decide⟩⟩) ∧
    (s.visit (.lookup "b")).1 = .ok (.entry none) ∧ (s.visit .size).1 = .ok (.number 1) := by
  intro result deposit visits s
  have forward : ∀ v ∈ visits, v.Forward := by
    simp [visits, result, Visit.Forward, Seconds.micros]
  obtain ⟨found, size, _⟩ := refines_ledger (.ok (.whole 300)) (fun _ _ => true) visits forward
  obtain ⟨a, answered, seen⟩ := found "a"
  obtain ⟨b, none_b, absent⟩ := found "b"
  refine ⟨forward, ⟨a, answered, ?_⟩, ?_, size.trans (congrArg _ ?_)⟩
  · have fused (m : Memory) : (Entry.map fun a => (m.read 4 a).printed) =
        Entry.map (fun view : View => (view 4).printed) ∘ Entry.map m.view := rfl
    rw [fused, ← Option.map_map, seen]
    decide +kernel
  · have nothing : ((Ledger.start.after (start (.ok (.whole 300)) fun _ _ => true)
        visits).current? "b").isNone := by decide +kernel
    rw [Option.isNone_iff_eq_none.mp nothing] at absent
    rw [none_b, Option.map_eq_none_iff.mp absent]
  · exact congrArg _ (by decide +kernel)

end Session

end Snapshot

end QueryDesk
