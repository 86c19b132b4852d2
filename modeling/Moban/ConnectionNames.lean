import Moban.Runs
import Moban.Tables

/-!
# The names of the connections of a server

A server names its connections after its address and a counter, and keeps them in a map by
name. The address and the counter are formatted into a buffer of 32 characters, which cuts a
longer text. The longest address has 21 characters, so a counter of ten digits can lose its
last one, and two connections can get one name. No name is cut, and the map holds exactly the
connections that are open, as long as address, colon and counter have at most 31 characters.
-/

namespace Moban

open Runs Function

/-- An address of the Internet protocol, version 4, and a port. -/
structure InetAddress where
  first : UInt8
  second : UInt8
  third : UInt8
  fourth : UInt8
  port : UInt16

/-- The text that a buffer of the given size holds after formatting, with its terminator. -/
def snprintf (size : Nat) (text : List Char) : List Char := text.take (size - 1)

namespace InetAddress

def toIp (address : InetAddress) : List Char :=
  Nat.toDigits 10 address.first.toNat ++ '.' :: Nat.toDigits 10 address.second.toNat ++
    '.' :: Nat.toDigits 10 address.third.toNat ++ '.' :: Nat.toDigits 10 address.fourth.toNat

def toIpPort (address : InetAddress) : List Char :=
  snprintf 32 (address.toIp ++ ':' :: Nat.toDigits 10 address.port.toNat)

theorem digits_length_le {value bound : Nat} (count : Nat) (positive : 0 < count)
    (small : value < bound) (fits : bound ≤ 10 ^ count) :
    (Nat.toDigits 10 value).length ≤ count :=
  (Nat.length_toDigits_le_iff (by decide) positive).mpr (small.trans_le fits)

theorem toIpPort_length_le (address : InetAddress) : address.toIpPort.length ≤ 21 := by
  have first := digits_length_le 3 (by decide) address.first.toNat_lt (by decide)
  have second := digits_length_le 3 (by decide) address.second.toNat_lt (by decide)
  have third := digits_length_le 3 (by decide) address.third.toNat_lt (by decide)
  have fourth := digits_length_le 3 (by decide) address.fourth.toNat_lt (by decide)
  have port := digits_length_le 5 (by decide) address.port.toNat_lt (by decide)
  simp only [toIpPort, toIp, snprintf, List.length_take, List.length_append, List.length_cons]
  omega

end InetAddress

/-- The part of a server that names its connections. A connection is identified by its number. -/
structure ConnectionTable where
  name : List Char
  listenAddr : InetAddress
  nextConnId : Nat
  /-- The map by name. -/
  connections : List Char → Option Nat
  /-- The connections that were made and have not closed. -/
  live : Finset Nat

namespace ConnectionTable

def initial (name : List Char) (listenAddr : InetAddress) : ConnectionTable where
  name := name
  listenAddr := listenAddr
  nextConnId := 1
  connections := fun _ => none
  live := ∅

/-- The name of the connection with the number. -/
def connName (s : ConnectionTable) (id : Nat) : List Char :=
  s.name ++ snprintf 32 (s.listenAddr.toIpPort ++ ':' :: Nat.toDigits 10 id)

def newConnection (s : ConnectionTable) : ConnectionTable :=
  { s with
    nextConnId := s.nextConnId + 1
    connections := update s.connections (s.connName s.nextConnId) (some s.nextConnId)
    live := insert s.nextConnId s.live }

/-- Erase the name of a connection that has closed. The assertion requires that it was there. -/
def removeConnectionInLoop (s : ConnectionTable) (id : Nat) : Option ConnectionTable :=
  match s.connections (s.connName id) with
  | none => none
  | some _ =>
      some { s with
        connections := update s.connections (s.connName id) none
        live := s.live.erase id }

inductive Label where
  | newConnection
  | removeConnectionInLoop (id : Nat)
deriving DecidableEq

def step (s : ConnectionTable) : Label → Option ConnectionTable
  | .newConnection => some s.newConnection
  | .removeConnectionInLoop id => s.removeConnectionInLoop id

/-- A connection closes once. The counter is an `int`, which takes the values from 1 on. -/
def Enabled (s : ConnectionTable) : Label → Prop
  | .newConnection => s.nextConnId < 2 ^ 31
  | .removeConnectionInLoop id => id ∈ s.live

instance (s : ConnectionTable) : DecidablePred s.Enabled
  | .newConnection => inferInstanceAs (Decidable (s.nextConnId < 2 ^ 31))
  | .removeConnectionInLoop id => inferInstanceAs (Decidable (id ∈ s.live))

def system : System ConnectionTable Label where
  step := step
  enabled := Enabled

instance (s : ConnectionTable) (label : Label) : Decidable (system.enabled s label) :=
  inferInstanceAs (Decidable (s.Enabled label))

/-! ## Names -/

/-- What the buffer keeps of the number. -/
theorem connName_eq (s : ConnectionTable) (id : Nat) :
    s.connName id = s.name ++ (s.listenAddr.toIpPort ++
      ':' :: (Nat.toDigits 10 id).take (30 - s.listenAddr.toIpPort.length)) := by
  have bound := s.listenAddr.toIpPort_length_le
  have rest : 31 - s.listenAddr.toIpPort.length = 30 - s.listenAddr.toIpPort.length + 1 := by omega
  rw [connName, snprintf, List.take_append, List.take_of_length_le (by omega), rest,
    List.take_succ_cons]

/-- Two names are equal exactly if the digits that are kept are. -/
theorem connName_eq_iff (s : ConnectionTable) (first second : Nat) :
    s.connName first = s.connName second ↔
      (Nat.toDigits 10 first).take (30 - s.listenAddr.toIpPort.length) =
        (Nat.toDigits 10 second).take (30 - s.listenAddr.toIpPort.length) := by
  rw [connName_eq, connName_eq, List.append_cancel_left_eq, List.append_cancel_left_eq,
    List.cons_inj_right]

@[simp] theorem newConnection_connName (s : ConnectionTable) (id : Nat) :
    s.newConnection.connName id = s.connName id := rfl

variable {first second : Nat}

theorem toDigits_injective
    (same : Nat.toDigits 10 first = Nat.toDigits 10 second) : first = second := by
  rw [← Nat.ofDigitChars_ten_toDigits (n := first), same, Nat.ofDigitChars_ten_toDigits]

/-- The name of the number is not cut. -/
def Fits (s : ConnectionTable) (id : Nat) : Prop :=
  s.listenAddr.toIpPort.length + 1 + (Nat.toDigits 10 id).length ≤ 31

variable {s : ConnectionTable}

/-- Names that are not cut tell their numbers apart. -/
theorem connName_injective (fitsFirst : s.Fits first)
    (fitsSecond : s.Fits second) (same : s.connName first = s.connName second) :
    first = second := by
  unfold Fits at fitsFirst fitsSecond
  rw [connName_eq_iff, List.take_of_length_le (by omega), List.take_of_length_le (by omega)] at same
  exact toDigits_injective same

theorem fits_of_short {id : Nat}
    (short : s.listenAddr.toIpPort.length ≠ 21) (small : id < 2 ^ 31) : s.Fits id := by
  have bound := s.listenAddr.toIpPort_length_le
  have digits := InetAddress.digits_length_le 10 (by decide) small (by decide)
  unfold Fits
  omega

/-- Two numbers get one name exactly if the address has its greatest length and the numbers
differ only behind their ninth digit. -/
theorem connName_collides_iff (s : ConnectionTable) (different : first ≠ second)
    (firstSmall : first < 2 ^ 31) (secondSmall : second < 2 ^ 31) :
    s.connName first = s.connName second ↔
      s.listenAddr.toIpPort.length = 21 ∧
        (Nat.toDigits 10 first).take 9 = (Nat.toDigits 10 second).take 9 := by
  by_cases long : s.listenAddr.toIpPort.length = 21
  · rw [connName_eq_iff, long]
    simp
  · have apart : s.connName first ≠ s.connName second := by
      intro same
      exact different (connName_injective (fits_of_short long firstSmall)
        (fits_of_short long secondSmall) same)
    simp [long, apart]

/-! ## The map -/

/-- The map has exactly the connections that are open, each under its own name. -/
structure Exact (s : ConnectionTable) : Prop where
  entries : ∀ name id, s.connections name = some id ↔ id ∈ s.live ∧ s.connName id = name
  fits : ∀ id ∈ s.live, s.Fits id
  fresh : ∀ id ∈ s.live, id < s.nextConnId

/-- The next connection gets a name that is not cut. -/
def FitsNext (s : ConnectionTable) : Label → Prop
  | .newConnection => s.Fits s.nextConnId
  | .removeConnectionInLoop _ => True

instance (s : ConnectionTable) (id : Nat) : Decidable (s.Fits id) :=
  inferInstanceAs (Decidable (_ ≤ _))

instance (s : ConnectionTable) : DecidablePred s.FitsNext
  | .newConnection => inferInstanceAs (Decidable (s.Fits s.nextConnId))
  | .removeConnectionInLoop _ => instDecidableTrue

/-- A new connection gets a name that is not in use, and a connection that has closed is the one
that is erased. -/
def Separate (s : ConnectionTable) : Label → Prop
  | .newConnection => s.connections (s.connName s.nextConnId) = none
  | .removeConnectionInLoop id => s.connections (s.connName id) = some id

theorem Exact.separate (exact : Exact s) {label : Label}
    (enabled : s.Enabled label) (fits : s.FitsNext label) : s.Separate label := by
  cases label with
  | newConnection =>
    by_contra used
    obtain ⟨id, entry⟩ := Option.ne_none_iff_exists'.mp used
    obtain ⟨live, same⟩ := (exact.entries _ _).mp entry
    have equal := connName_injective (exact.fits id live) fits same
    exact absurd (exact.fresh id live) (by omega)
  | removeConnectionInLoop id => exact (exact.entries _ _).mpr ⟨enabled, rfl⟩

theorem Exact.newConnection (exact : Exact s)
    (fits : s.Fits s.nextConnId) : Exact s.newConnection := by
  have all : ∀ id ∈ insert s.nextConnId s.live, s.Fits id := by
    intro id member
    rcases Finset.mem_insert.mp member with rfl | live
    · exact fits
    · exact exact.fits id live
  refine ⟨?_, all, ?_⟩
  · intro name id
    change update s.connections (s.connName s.nextConnId) (some s.nextConnId) name =
      some id ↔ id ∈ insert s.nextConnId s.live ∧ s.connName id = name
    by_cases named : name = s.connName s.nextConnId
    · subst named
      rw [update_self]
      constructor
      · rintro ⟨⟩
        exact ⟨Finset.mem_insert_self _ _, rfl⟩
      · rintro ⟨member, same⟩
        rw [connName_injective (all id member) fits same]
    · rw [update_of_ne named, exact.entries]
      constructor
      · rintro ⟨live, same⟩
        exact ⟨Finset.mem_insert_of_mem live, same⟩
      · rintro ⟨member, same⟩
        have other : id ≠ s.nextConnId := by
          rintro rfl
          exact named same.symm
        exact ⟨Finset.mem_of_mem_insert_of_ne member other, same⟩
  · intro id member
    change id < s.nextConnId + 1
    rcases Finset.mem_insert.mp member with rfl | live
    · exact Nat.lt_succ_self _
    · exact (exact.fresh id live).trans (Nat.lt_succ_self _)

/-- Erasing the name of an open connection erases that connection and no other. -/
theorem Exact.removeConnectionInLoop (exact : Exact s) {id : Nat}
    (live : id ∈ s.live) : ∃ next, s.removeConnectionInLoop id = some next ∧ Exact next := by
  have entry : s.connections (s.connName id) = some id := (exact.entries _ _).mpr ⟨live, rfl⟩
  refine ⟨_, by rw [ConnectionTable.removeConnectionInLoop, entry], ?_, ?_, ?_⟩
  · intro name other
    change update s.connections (s.connName id) none name = some other ↔
      other ∈ s.live.erase id ∧ s.connName other = name
    rw [Finset.mem_erase, and_assoc]
    by_cases named : name = s.connName id
    · subst named
      rw [update_self]
      constructor
      · rintro ⟨⟩
      · rintro ⟨different, member, same⟩
        exact absurd (connName_injective (exact.fits other member) (exact.fits id live) same)
          different
    · rw [update_of_ne named, exact.entries, iff_and_self]
      rintro ⟨_, same⟩ rfl
      exact named same.symm
  · intro other member
    exact exact.fits other (Finset.mem_of_mem_erase member)
  · intro other member
    exact exact.fresh other (Finset.mem_of_mem_erase member)

theorem step_exact (s : ConnectionTable) (label : Label) (exact : Exact s)
    (admitted : s.Enabled label ∧ s.FitsNext label) :
    ∃ next, system.step s label = some next ∧ Exact next := by
  obtain ⟨enabled, fits⟩ := admitted
  cases label with
  | newConnection => exact ⟨_, rfl, exact.newConnection fits⟩
  | removeConnectionInLoop id => exact exact.removeConnectionInLoop enabled

/-- Two connections are not confused. Their names are equal exactly if the address of the server
has 21 characters and the numbers differ only behind their ninth digit. In every run in which
no name is cut, no step fails, no connection gets a name in use, the connection that has closed
is the one that is erased, and the map has exactly the open connections.

Proof: the buffer keeps at least nine digits of a number, and all ten if the address is shorter.
Names that are not cut tell their numbers apart, which keeps the map exact. -/
theorem connections_separate (name : List Char) (listenAddr : InetAddress) :
    (∀ first second, first ≠ second → first ∈ Set.Ico 1 (2 ^ 31) → second ∈ Set.Ico 1 (2 ^ 31) →
      ((initial name listenAddr).connName first = (initial name listenAddr).connName second ↔
        listenAddr.toIpPort.length = 21 ∧
          (Nat.toDigits 10 first).take 9 = (Nat.toDigits 10 second).take 9)) ∧
    ∀ labels, system.Valid (initial name listenAddr) labels →
      system.Along FitsNext (initial name listenAddr) labels →
      system.Along Separate (initial name listenAddr) labels ∧
      ∃ final, system.run (initial name listenAddr) labels = some final ∧
        ∀ name id, final.connections name = some id ↔
          id ∈ final.live ∧ final.connName id = name := by
  refine ⟨?_, ?_⟩
  · intro first second different firstRange secondRange
    exact connName_collides_iff _ different firstRange.2 secondRange.2
  · intro labels valid fitting
    have along := (System.along_and _ _ _ _).mpr ⟨valid, fitting⟩
    have start : Exact (initial name listenAddr) := ⟨by simp [initial], by simp [initial],
      by simp [initial]⟩
    have kept : ∀ s label next, Exact s → s.Enabled label ∧ s.FitsNext label →
        system.step s label = some next → Exact next := by
      intro s label next exact admitted stepped
      obtain ⟨other, same, established⟩ := step_exact s label exact admitted
      cases same.symm.trans stepped
      exact established
    refine ⟨?_, ?_⟩
    · refine System.along_invariant Exact kept ?_ _ _ start along
      intro s label exact admitted
      exact exact.separate admitted.1 admitted.2
    · obtain ⟨final, finished, exact⟩ := System.run_safe Exact step_exact _ _ start along
      exact ⟨final, finished, exact.entries⟩

/-- The address 127.0.0.1 and the port 80. -/
def loopback : InetAddress := ⟨127, 0, 0, 1, 80⟩

/-- Two connections, the second of which is removed. -/
theorem connections_separate_loopback :
    system.Along Separate (initial [] loopback) [.newConnection, .newConnection,
        .removeConnectionInLoop 1] ∧
      ∃ final, system.run (initial [] loopback) [.newConnection, .newConnection,
          .removeConnectionInLoop 1] = some final ∧
        ∀ name id, final.connections name = some id ↔
          id ∈ final.live ∧ final.connName id = name :=
  (connections_separate [] loopback).2 _ (by decide) (by decide)

/-! ## A run with two connections of one name -/

/-- The entry of a connection that is erased at once leaves the map as it was. -/
theorem newConnection_removed
    (unused : s.connections (s.connName s.nextConnId) = none) (fresh : s.nextConnId ∉ s.live) :
    s.newConnection.removeConnectionInLoop s.nextConnId =
      some { s with nextConnId := s.nextConnId + 1 } := by
  have entry : s.newConnection.connections (s.newConnection.connName s.nextConnId) =
      some s.nextConnId := update_self _ _ _
  have map : update s.newConnection.connections (s.newConnection.connName s.nextConnId)
      none = s.connections := by
    change update (update s.connections (s.connName s.nextConnId) _)
      (s.connName s.nextConnId) none = _
    rw [update_idem, ← unused, update_eq_self]
  have remaining : s.newConnection.live.erase s.nextConnId = s.live := Finset.erase_insert fresh
  simp only [removeConnectionInLoop, entry, map, remaining]
  rfl

/-- Connections that close before the next one is made leave only the counter changed.

Proof: induction over the counter; the name of each connection is not in use when it is made. -/
theorem reaches (exact : Exact s) (target : Nat)
    (later : s.nextConnId ≤ target) (fits : ∀ id < target, s.Fits id) (small : target ≤ 2 ^ 31) :
    ∃ labels, system.Valid s labels ∧
      system.run s labels = some { s with nextConnId := target } := by
  induction target, later using Nat.le_induction with
  | base => exact ⟨[], trivial, rfl⟩
  | succ counter later ih =>
    obtain ⟨labels, valid, finished⟩ :=
      ih (fun id below => fits id (by omega)) (by omega)
    have advanced : Exact { s with nextConnId := counter } :=
      ⟨exact.entries, exact.fits, fun id live => (exact.fresh id live).trans_le later⟩
    have enabled : counter < 2 ^ 31 := small
    have unused : { s with nextConnId := counter }.Separate .newConnection :=
      advanced.separate enabled (fits counter (Nat.lt_succ_self _))
    have fresh : counter ∉ s.live := fun live => (advanced.fresh _ live).false
    have next := newConnection_removed (s := { s with nextConnId := counter }) unused fresh
    refine ⟨labels ++ [Label.newConnection, Label.removeConnectionInLoop counter], ?_, ?_⟩
    · refine (System.along_append _ _ _ _).mpr ⟨valid, ?_⟩
      intro middle same
      cases finished.symm.trans same
      refine ⟨enabled, ?_⟩
      rintro _ ⟨⟩
      exact ⟨Finset.mem_insert_self _ _, fun _ _ => trivial⟩
    · rw [System.run_append, finished]
      simp [system, step, next]

/-- When the next connection gets the name of an open one, the assertion fails once both have
closed. -/
theorem collision_fails {old : Nat} (live : old ∈ s.live)
    (small : s.nextConnId < 2 ^ 31) (different : old ≠ s.nextConnId)
    (same : s.connName old = s.connName s.nextConnId) :
    system.Valid s [.newConnection, .removeConnectionInLoop old,
        .removeConnectionInLoop s.nextConnId] ∧
      system.run s [.newConnection, .removeConnectionInLoop old,
        .removeConnectionInLoop s.nextConnId] = none := by
  have entry : s.newConnection.connections (s.newConnection.connName old) = some s.nextConnId := by
    rw [newConnection_connName, same]
    exact update_self _ _ _
  obtain ⟨next, removed, shape⟩ : ∃ next, s.newConnection.removeConnectionInLoop old = some next ∧
      next = { s.newConnection with
        connections :=
          update s.newConnection.connections (s.newConnection.connName old) none
        live := s.newConnection.live.erase old } :=
    ⟨_, by rw [removeConnectionInLoop, entry], rfl⟩
  have absent : next.connections (next.connName s.nextConnId) = none := by
    have named : next.connName s.nextConnId = s.newConnection.connName old := by
      rw [newConnection_connName, same, shape]
      rfl
    rw [named, shape]
    exact update_self _ _ _
  refine ⟨⟨small, ?_⟩, ?_⟩
  · rintro _ ⟨⟩
    refine ⟨Finset.mem_insert_of_mem live, ?_⟩
    intro other stepped
    cases removed.symm.trans stepped
    subst shape
    exact ⟨Finset.mem_erase.mpr ⟨different.symm, Finset.mem_insert_self _ _⟩, fun _ _ => trivial⟩
  · have failed : next.removeConnectionInLoop s.nextConnId = none := by
      rw [removeConnectionInLoop, absent]
    simp [system, step, removed, failed]

/-- The address 192.168.100.100 and the port 10000. -/
def longest : InetAddress := ⟨192, 168, 100, 100, 10000⟩

/-- Connection 100000000 is open and connection 1000000000 is the next. -/
def crowded : ConnectionTable where
  name := []
  listenAddr := longest
  nextConnId := 1000000000
  connections := update (fun _ => none) ((initial [] longest).connName 100000000)
    (some 100000000)
  live := {100000000}

/-- The state is reached when all other connections have closed.

Proof: up to the first of the two connections, and from there to the second, no name is cut. -/
theorem crowded_reached : ∃ labels, system.Valid (initial [] longest) labels ∧
      system.run (initial [] longest) labels = some crowded := by
  have fits : ∀ id < 1000000000, (initial [] longest).Fits id := by
    intro id small
    have address : longest.toIpPort.length = 21 := by decide
    have digits := InetAddress.digits_length_le 9 (by decide) small (by decide)
    change longest.toIpPort.length + 1 + _ ≤ 31
    omega
  have start : Exact (initial [] longest) :=
    ⟨by simp [initial], by simp [initial], by simp [initial]⟩
  obtain ⟨before, beforeValid, beforeRun⟩ := reaches start 100000000 (by decide)
    (fun id below => fits id (below.trans (by decide))) (by decide)
  have exact : Exact { initial [] longest with nextConnId := 100000000 }.newConnection :=
    Exact.newConnection ⟨start.entries, start.fits, by simp [initial]⟩ (fits 100000000 (by decide))
  obtain ⟨after, afterValid, afterRun⟩ := reaches exact 1000000000 (by decide) fits (by decide)
  refine ⟨before ++ Label.newConnection :: after, ?_, ?_⟩
  · refine (System.along_append _ _ _ _).mpr ⟨beforeValid, ?_⟩
    intro middle same
    cases beforeRun.symm.trans same
    refine ⟨by decide, ?_⟩
    rintro _ ⟨⟩
    exact afterValid
  · rw [System.run_append, beforeRun, Option.bind_some]
    exact afterRun

/-- With an address of 21 characters, the connections 100000000 and 1000000000 have one name. In
a run in which the first is still open when the second is made, the map loses the first, and
the assertion fails when both have closed. -/
theorem connections_confused :
    (initial [] longest).connName 100000000 = (initial [] longest).connName 1000000000 ∧
      ∃ labels, system.Valid (initial [] longest) labels ∧
        system.run (initial [] longest) labels = none := by
  have same : (initial [] longest).connName 100000000 =
      (initial [] longest).connName 1000000000 := by decide
  obtain ⟨labels, valid, reached⟩ := crowded_reached
  obtain ⟨lastValid, failed⟩ := collision_fails (s := crowded) (Finset.mem_singleton_self _)
    (by decide) (by decide) same
  refine ⟨same, labels ++ [Label.newConnection, Label.removeConnectionInLoop 100000000,
    Label.removeConnectionInLoop crowded.nextConnId], ?_, ?_⟩
  · refine (System.along_append _ _ _ _).mpr ⟨valid, ?_⟩
    intro other finished
    cases reached.symm.trans finished
    exact lastValid
  · rw [System.run_append, reached, Option.bind_some]
    exact failed

end ConnectionTable

end Moban
