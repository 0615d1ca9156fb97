import Criteria.Value.Equality

set_option autoImplicit false

namespace Criteria

namespace Value

def atomFingerprint (v : Value) : Fingerprint :=
  match v.number? with
  | some n => .ofNumber n
  | none =>
    match v with
    | text _ s => .ofText s
    | mode m => .ofText m.name
    | bytes _ data => .ofOctets data
    | date _ d => .ofOctets (Fingerprint.dateOctets d)
    | moment _ d t => .ofOctets (Fingerprint.dateOctets d ++ Fingerprint.timeOctets t)
    | time _ t => .ofOctets (Fingerprint.timeOctets t)
    | range _ first stop step => .ofRange first stop step
    | classOf c => .ofClass c
    | null => .atom "null"
    | _ => .atom "unset"

mutual

def fingerprintWith (look : Handle → Except Fault Fingerprint) :
    Value → Except Fault Fingerprint
  | tuple _ items => do .ok (.row (← fingerprintsWith look items))
  | point _ items => do .ok (.row (← fingerprintsWith look items))
  | query _ t args => do
    let t ← fingerprintWith look t
    let args ← fingerprintWith look args
    .ok (.row [t, args])
  | shared h => look h
  | v => .ok v.atomFingerprint

def fingerprintsWith (look : Handle → Except Fault Fingerprint) :
    List Value → Except Fault (List Fingerprint)
  | [] => .ok []
  | v :: vs => do
    let f ← fingerprintWith look v
    let fs ← fingerprintsWith look vs
    .ok (f :: fs)

end

end Value

namespace Cell

def fingerprint (h : Handle) : Cell → Except Fault Fingerprint
  | set true members => .ok (.ofBunch (members.map Member.print))
  | undefined .signaling _ => .error .signalingKey
  | c =>
    match c with
    | list _ | deque _ | set .. | dict .. | byteArray _ | fieldSet _ =>
      .error (.unhashable c.longName)
    | _ => .ok (.cell h)

end Cell

namespace Store

/-- A path that is itself a cell is followed at most `depth` times. -/
def cellFingerprint (s : Store) : Nat → Handle → Except Fault Fingerprint
  | 0, _ => .error (.endless .keying)
  | depth + 1, h =>
    match s.cell? h with
    | none => .ok (.cell h)
    | some (.field none) => .error (.noAttribute "Field" "_path")
    | some (.field (some path)) => path.fingerprintWith (s.cellFingerprint depth)
    | some c => c.fingerprint h

def fingerprint (s : Store) (v : Value) : Except Fault Fingerprint :=
  v.fingerprintWith (s.cellFingerprint (s.size + 1))

def member (s : Store) (v : Value) : Except Fault Member := do .ok ⟨v, ← s.fingerprint v⟩

def members (s : Store) : List Value → Except Fault (List Member)
  | [] => .ok []
  | v :: vs => do
    let m ← s.member v
    let ms ← s.members vs
    .ok (m :: ms)

end Store

end Criteria
