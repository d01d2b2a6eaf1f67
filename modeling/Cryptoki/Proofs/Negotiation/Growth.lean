import Cryptoki.Proofs.Negotiation
import Cryptoki.Simulation.Memory
import Mathlib.Data.Nat.Find
import Mathlib.Order.Bounds.Basic

/-! Outputs that change while they are fetched. However a module chooses its answers, it is asked
for the length once, and then lent buffers of growing capacity until it is content, fails, or asks
for no more than it was lent (`Negotiation.read_escalates`). Of a module that has another output in
each call, the first output is returned that is no longer than the one before it
(`Negotiation.read_changing`). -/

namespace Cryptoki.Negotiation

variable {allocator : Allocator} {α σ : Type}

/-! ### Growing buffers -/

/-- The lengths that are announced to the module, call by call. -/
def capacities (made : List OutputExchange) : List Word := made.map fun x => x.request.capacity

section Growing

variable {kind : OutputKind α} {function : String} {capacity : Word} {made : List OutputExchange}
  {result : Except Error (List α)}

theorem Filled.length_le (h : Filled kind function capacity made result) :
    made.length + capacity.toNat ≤ UInt64.size := by
  -- each call but the last leaves a longer length, which is the capacity of the rest
  induction h with
  | @cramped capacity =>
    have hmax := capacity.toNat_lt_size
    simp only [List.length_nil]
    omega
  | @done capacity | @failed capacity =>
    have hmax := capacity.toNat_lt_size
    simp only [List.length_singleton]
    omega
  | @grown capacity _ x _ _ _ hrequest hgrew _ ih =>
    have hlt : capacity < reported x := by
      have hgrown := hgrew.2
      rwa [hrequest] at hgrown
    have hlt := UInt64.lt_iff_toNat_lt.mp hlt
    simp only [List.length_cons]
    omega

/-- Each buffer has the length that the call before it, at first `x`, has reported. -/
theorem Filled.capacities_eq (h : Filled kind function capacity made result) {x : OutputExchange}
    (hx : reported x = capacity) : capacities made = (x :: made).dropLast.map reported := by
  induction h generalizing x with
  | cramped => rfl
  | @done capacity _ y _ hrequest | @failed capacity _ y _ hrequest =>
    have hy : y.request.capacity = capacity := congrArg OutputRequest.capacity hrequest
    show [y.request.capacity] = [reported x]
    rw [hy, hx]
  | @grown capacity _ y rest _ _ hrequest _ _ ih =>
    have hy : y.request.capacity = capacity := congrArg OutputRequest.capacity hrequest
    have hrest : capacities rest = (y :: rest).dropLast.map reported := ih rfl
    show y.request.capacity :: capacities rest = reported x :: (y :: rest).dropLast.map reported
    rw [hy, hx, hrest]

theorem Filled.le_capacity (h : Filled kind function capacity made result) :
    ∀ c ∈ capacities made, capacity ≤ c := by
  induction h with
  | cramped => exact List.forall_mem_nil _
  | @done capacity _ y _ hrequest | @failed capacity _ y _ hrequest =>
    have hy : y.request.capacity = capacity := congrArg OutputRequest.capacity hrequest
    exact List.forall_mem_singleton.mpr (UInt64.le_of_eq hy.symm)
  | @grown capacity _ y _ _ _ hrequest hgrew _ ih =>
    have hy : y.request.capacity = capacity := congrArg OutputRequest.capacity hrequest
    refine List.forall_mem_cons.mpr ⟨UInt64.le_of_eq hy.symm, fun c hc => ?_⟩
    have hlt : y.request.capacity < reported y := hgrew.2
    rw [hy] at hlt
    exact UInt64.le_trans (UInt64.le_of_lt hlt) (ih c hc)

theorem Filled.pairwise (h : Filled kind function capacity made result) :
    (capacities made).Pairwise (· < ·) := by
  induction h with
  | cramped => exact .nil
  | done | failed => exact List.pairwise_singleton _ _
  | grown _ _ hgrew hfilled ih =>
    refine List.pairwise_cons.mpr ⟨fun c hc => ?_, ih⟩
    exact UInt64.lt_of_lt_of_le hgrew.2 (hfilled.le_capacity c hc)

end Growing

/-- A module is asked for the length once and first, whatever it answers. All other calls lend it a
buffer, each of the length that the call before has reported, and their capacities grow strictly, so
there are at most as many as there are lengths. -/
theorem read_escalates (kind : OutputKind α) (function : String) (call : Callee σ) (s : σ) :
    ∃ result s' query fills, (read kind function call).run s = (result, s') ∧
      exchanges (read kind function) call s = query :: fills ∧
      Calls call.ask s (query :: fills) s' ∧ fills.length ≤ UInt64.size ∧
      query.request = ⟨false, 0⟩ ∧ (∀ x ∈ fills, x.request.present = true) ∧
      capacities fills = (query :: fills).dropLast.map reported ∧
      (capacities fills).Pairwise (· < ·) := by
  obtain ⟨result, s', hrun, hcalls, hnegotiated⟩ := read_negotiated call s kind function
  generalize exchanges (read kind function) call s = made at hcalls hnegotiated
  cases hnegotiated with
  | @refused x hrequest =>
    exact ⟨_, s', x, [], hrun, rfl, hcalls, Nat.zero_le _, hrequest, List.forall_mem_nil _, rfl,
      .nil⟩
  | @told x fills _ hrequest _ hfilled =>
    have hlength := hfilled.length_le
    exact ⟨result, s', x, fills, hrun, rfl, hcalls, by omega, hrequest, hfilled.present,
      hfilled.capacities_eq rfl, hfilled.pairwise⟩

/-! ### Changing outputs -/

/-- The two kinds of outputs that modules have. -/
inductive OutputKind.Standard [Allocator] : {α : Type} → OutputKind α → Prop
  | bytes : Standard Negotiation.bytes
  | words : Standard Negotiation.words

def OutputKind.Allocatable (kind : OutputKind α) (count : Nat) : Prop :=
  ∃ buffer, kind.allocate count = .ok buffer

/-- With a null pointer, a module tells how long its output is. -/
structure Tells (output : List α) (x : OutputExchange) : Prop where
  length : reported x = .ofNat output.length
  status : x.reply.status = Status.ok

/-- With a buffer, a module tells how long its output is, and writes it if it fits. -/
structure OutputKind.Fills (kind : OutputKind α) (output : List α) (x : OutputExchange) :
    Prop where
  length : reported x = .ofNat output.length
  fits : output.length ≤ x.request.capacity.toNat →
    x.reply.status = Status.ok ∧ kind.written x.reply = output
  exceeds : x.request.capacity.toNat < output.length → x.reply.status = Status.bufferTooSmall

/-- A module has this output in this call. -/
structure OutputKind.Produces (kind : OutputKind α) (output : List α) (x : OutputExchange) :
    Prop where
  tells : x.request.present = false → Tells output x
  fills : x.request.present = true → kind.Fills output x

/-- Whatever calls a module gets from the state `s` on, it keeps to `rule k` in call number `k`. -/
def Callee.Follows (call : Callee σ) (s : σ) (rule : Nat → OutputExchange → Prop) : Prop :=
  ∀ ⦃made s'⦄, Calls call.ask s made s' → ∀ k x, made[k]? = some x → rule k x

namespace OutputKind

variable {kind : OutputKind α} {output buffer : List α} {x : OutputExchange}

theorem Standard.exact (hkind : kind.Standard) : kind.Exact := by
  cases hkind with
  | bytes => exact bytes_exact
  | words => exact words_exact

theorem Allocatable.lt_size (hkind : kind.Standard) {count : Nat} (h : kind.Allocatable count) :
    count < UInt64.size := by
  obtain ⟨buffer, hbuffer⟩ := h
  cases hkind with
  | bytes => exact (bytes_sized.room _ _ hbuffer).bytes_lt
  | words =>
    exact Nat.lt_of_le_of_lt (Nat.le_mul_of_pos_right _ (by decide))
      (words_sized.room _ _ hbuffer).words_lt

theorem Fills.toNat_reported (h : kind.Fills output x) (hlength : output.length < UInt64.size) :
    (reported x).toNat = output.length := by
  rw [h.length, UInt64.toNat_ofNat_of_lt' hlength]

theorem Fills.ok_iff (h : kind.Fills output x) :
    x.reply.status = Status.ok ↔ output.length ≤ x.request.capacity.toNat := by
  refine ⟨fun hok => ?_, fun hfits => (h.fits hfits).1⟩
  by_contra hlong
  cases hok.symm.trans (h.exceeds (Nat.lt_of_not_le hlong))

/-- The output is all that is returned: nothing is left of what the buffer held. -/
theorem Fills.outcome_eq (h : kind.Fills output x)
    (hbuffer : buffer.length = x.request.capacity.toNat) (hok : x.reply.status = Status.ok) :
    outcome kind buffer x.request.capacity x.reply = output := by
  have hfits := h.ok_iff.mp hok
  have hsize : output.length < UInt64.size := Nat.lt_of_le_of_lt hfits (UInt64.toNat_lt_size _)
  have hreported : (reportedLength x.request.capacity x.reply).toNat = output.length :=
    h.toNat_reported hsize
  rw [outcome, hreported, (h.fits hfits).2, overwrite, hbuffer, List.take_of_length_le hfits,
    List.take_left]

theorem Fills.grew_iff (h : kind.Fills output x) (hlength : output.length < UInt64.size) :
    Grew x ↔ x.request.capacity.toNat < output.length := by
  have hreported := h.toNat_reported hlength
  constructor
  · rintro ⟨-, hlt⟩
    rwa [UInt64.lt_iff_toNat_lt, hreported] at hlt
  · intro hlong
    refine ⟨h.exceeds hlong, ?_⟩
    rwa [UInt64.lt_iff_toNat_lt, hreported]

theorem Fills.ok_of_not_grew (h : kind.Fills output x) (hlength : output.length < UInt64.size)
    (hgrew : ¬Grew x) : x.reply.status = Status.ok := by
  rw [h.grew_iff hlength] at hgrew
  exact h.ok_iff.mpr (Nat.le_of_not_lt hgrew)

end OutputKind

section Changing

variable {kind : OutputKind α} {function : String} {made : List OutputExchange}
  {result : Except Error (List α)} {outputs : Nat → List α}

/-- A buffer for output number `i` grows with the outputs, up to the first that is no longer than
the one before it. -/
theorem Filled.changing (hkind : kind.Standard) {capacity : Word}
    (h : Filled kind function capacity made result) {i k : Nat}
    (hcapacity : capacity.toNat = (outputs i).length)
    (hmade : ∀ n x, made[n]? = some x → kind.Fills (outputs (i + 1 + n)) x)
    (hroom : ∀ n, kind.Allocatable (outputs n).length) (hik : i ≤ k)
    (hfirst : (outputs (k + 1)).length ≤ (outputs k).length)
    (hleast : ∀ n < k, (outputs n).length < (outputs (n + 1)).length) :
    result = .ok (outputs (k + 1)) ∧ i + made.length = k + 1 := by
  induction h generalizing i with
  | cramped he =>
    obtain ⟨buffer, hbuffer⟩ := hroom i
    rw [hcapacity, hbuffer] at he
    cases he
  | @done capacity buffer x hallocate hrequest hok =>
    have hfills : kind.Fills (outputs (i + 1)) x := hmade 0 x rfl
    have hx : x.request.capacity = capacity := congrArg OutputRequest.capacity hrequest
    have hbuffer := hkind.exact _ _ hallocate
    have hfits := hfills.ok_iff.mp hok
    subst hx
    -- output `i + 1` is no longer than output `i`, so `k` is reached
    obtain rfl : i = k := by
      by_contra hne
      have hgrows := hleast i (by omega)
      omega
    exact ⟨congrArg Except.ok (hfills.outcome_eq hbuffer hok), rfl⟩
  | @grown capacity buffer x rest result _ hrequest hgrew _ ih =>
    have hfills : kind.Fills (outputs (i + 1)) x := hmade 0 x rfl
    have hx : x.request.capacity = capacity := congrArg OutputRequest.capacity hrequest
    have hlength := (hroom (i + 1)).lt_size hkind
    have hlonger := (hfills.grew_iff hlength).mp hgrew
    rw [hx, hcapacity] at hlonger
    have hne : i ≠ k := by
      rintro rfl
      omega
    -- the next buffer is one for output `i + 1`
    obtain ⟨hresult, hcount⟩ := ih (hfills.toNat_reported hlength)
      (fun n y hy => by
        have hfills' := hmade (n + 1) y hy
        rwa [show i + 1 + (n + 1) = i + 1 + 1 + n by omega] at hfills')
      (by omega)
    refine ⟨hresult, ?_⟩
    rw [List.length_cons]
    omega
  | @failed capacity buffer x _ hrequest hok hgrew =>
    have hfills : kind.Fills (outputs (i + 1)) x := hmade 0 x rfl
    exact absurd (hfills.ok_of_not_grew ((hroom (i + 1)).lt_size hkind) hgrew) hok

/-- A fetch returns the first output that is no longer than the one before it. -/
theorem Negotiated.changing (hkind : kind.Standard) (h : Negotiated kind function made result)
    (hmade : ∀ n x, made[n]? = some x → kind.Produces (outputs n) x)
    (hroom : ∀ n, kind.Allocatable (outputs n).length) {k : Nat}
    (hfirst : (outputs (k + 1)).length ≤ (outputs k).length)
    (hleast : ∀ n < k, (outputs n).length < (outputs (n + 1)).length) :
    result = .ok (outputs (k + 1)) ∧ made.length = k + 2 := by
  cases h with
  | @refused x hrequest hne =>
    have htells := (hmade 0 x rfl).tells (congrArg OutputRequest.present hrequest)
    exact absurd htells.status hne
  | @told x fills _ hrequest _ hfilled =>
    have htells := (hmade 0 x rfl).tells (congrArg OutputRequest.present hrequest)
    have hcapacity : (reported x).toNat = (outputs 0).length := by
      rw [htells.length, UInt64.toNat_ofNat_of_lt' ((hroom 0).lt_size hkind)]
    have hfills : ∀ n y, fills[n]? = some y → kind.Fills (outputs (0 + 1 + n)) y := by
      intro n y hy
      have hpresent := hfilled.present y (List.mem_of_getElem? hy)
      have hy := (hmade (n + 1) y hy).fills hpresent
      rwa [Nat.zero_add, Nat.add_comm]
    obtain ⟨hresult, hcount⟩ :=
      hfilled.changing hkind hcapacity hfills hroom (Nat.zero_le k) hfirst hleast
    refine ⟨hresult, ?_⟩
    rw [List.length_cons]
    omega

end Changing

/-- A module has `outputs k` in call number `k`, of a length for which there is memory. If some
output but the first is no longer than the one before it, the first such output is returned, and
nothing of the earlier ones, after as many calls as there have been outputs by then. An output that
does not change is returned in the second call. -/
theorem read_changing {kind : OutputKind α} (hkind : kind.Standard) (function : String)
    {call : Callee σ} {s : σ} {outputs : Nat → List α}
    (hfollows : call.Follows s fun k => kind.Produces (outputs k))
    (hroom : ∀ k, kind.Allocatable (outputs k).length)
    (hstops : ∃ k, 1 ≤ k ∧ (outputs k).length ≤ (outputs (k - 1)).length) :
    ∃ k s', IsLeast {k | 1 ≤ k ∧ (outputs k).length ≤ (outputs (k - 1)).length} k ∧
      (read kind function call).run s = (.ok (outputs k), s') ∧
      (exchanges (read kind function) call s).length = k + 1 ∧
      ((∀ j, outputs j = outputs 0) → k = 1) := by
  obtain ⟨hpos, hstop⟩ := Nat.find_spec hstops
  have hleast : IsLeast {k | 1 ≤ k ∧ (outputs k).length ≤ (outputs (k - 1)).length}
      (Nat.find hstops) := ⟨⟨hpos, hstop⟩, fun n hn => Nat.find_min' hstops hn⟩
  generalize Nat.find hstops = found at hpos hstop hleast
  obtain ⟨k, rfl⟩ : ∃ k, found = k + 1 := ⟨found - 1, by omega⟩
  have hgrows : ∀ n < k, (outputs n).length < (outputs (n + 1)).length := by
    intro n hn
    by_contra hlonger
    have hle : k + 1 ≤ n + 1 := hleast.2 ⟨by omega, Nat.le_of_not_lt hlonger⟩
    omega
  obtain ⟨result, s', hrun, hcalls, hnegotiated⟩ := read_negotiated call s kind function
  obtain ⟨rfl, hcount⟩ := hnegotiated.changing hkind (hfollows hcalls) hroom hstop hgrows
  refine ⟨k + 1, s', hleast, hrun, hcount, fun hfixed => ?_⟩
  have hone : 1 ≤ 1 ∧ (outputs 1).length ≤ (outputs 0).length :=
    ⟨Nat.le_refl 1, by rw [hfixed 1]⟩
  exact Nat.le_antisymm (hleast.2 hone) hpos

/-! ### A module with a row of outputs -/

/-- The answer of a module that has this output. -/
def presented (output : List UInt8) (request : OutputRequest) : Reply :=
  let length := UInt64.ofNat output.length
  if request.present = false then { length := some length }
  else if output.length ≤ request.capacity.toNat then { bytes := output, length := some length }
  else { status := Status.bufferTooSmall, length := some length }

/-- A module that has `outputs k` in call number `k`; its state is the number of the next call. -/
def presenting (outputs : Nat → List UInt8) : Callee Nat :=
  fun present capacity n => (presented (outputs n) ⟨present, capacity⟩, n + 1)

theorem presented_produces (output : List UInt8) (request : OutputRequest) :
    bytes.Produces output ⟨request, presented output request⟩ := by
  obtain ⟨present, capacity⟩ := request
  cases present with
  | false =>
    have htells : Tells output ⟨⟨false, capacity⟩, presented output ⟨false, capacity⟩⟩ := ⟨rfl, rfl⟩
    exact ⟨fun _ => htells, nofun⟩
  | true =>
    refine ⟨nofun, fun _ => ?_⟩
    by_cases hfits : output.length ≤ capacity.toNat
    · have hreply : presented output ⟨true, capacity⟩ =
          { bytes := output, length := some (.ofNat output.length) } := if_pos hfits
      rw [hreply]
      exact ⟨rfl, fun _ => ⟨rfl, rfl⟩, fun hlong => absurd hfits (Nat.not_le.mpr hlong)⟩
    · have hreply : presented output ⟨true, capacity⟩ =
          { status := Status.bufferTooSmall, length := some (.ofNat output.length) } :=
        if_neg hfits
      rw [hreply]
      exact ⟨rfl, fun hle => absurd hle hfits, fun _ => rfl⟩

theorem presenting_follows (outputs : Nat → List UInt8) (n : Nat) :
    (presenting outputs).Follows n fun k => bytes.Produces (outputs (n + k)) := by
  intro made n' hcalls
  induction hcalls with
  | nil =>
    intro k x hx
    rw [List.getElem?_nil] at hx
    cases hx
  | @cons n next _ request reply _ hcall _ ih =>
    have hreply : presented (outputs n) request = reply := congrArg Prod.fst hcall
    have hnext : n + 1 = next := congrArg Prod.snd hcall
    subst hreply hnext
    rintro (_ | k) x hx
    · obtain rfl := Option.some.inj hx
      exact presented_produces (outputs n) request
    · have hproduces : bytes.Produces (outputs (n + 1 + k)) x := ih k x hx
      rwa [Nat.add_assoc, Nat.add_comm 1 k] at hproduces

theorem bytes_allocatable {count : Nat} (h : (Memory.Demand.bytes count).Met) :
    bytes.Allocatable count :=
  ⟨List.replicate count 0, Memory.allocateBytes_eq_ok_iff.mpr ⟨h, rfl⟩⟩

/-- Outputs that grow twice and then shrink. -/
def changingOutputs (k : Nat) : List UInt8 := [[1], [2, 3, 4], [5, 6, 7, 8]].getD k [9, 10]

end Cryptoki.Negotiation

namespace Cryptoki.Negotiation

open Simulation

theorem read_changingOutputs :
    ∃ s', (read bytes "C_GetOperationState" (presenting changingOutputs)).run 0 =
        (.ok [9, 10], s') ∧
      (exchanges (read bytes "C_GetOperationState") (presenting changingOutputs) 0).length = 4 := by
  have hfollows : (presenting changingOutputs).Follows 0 fun k =>
      bytes.Produces (changingOutputs k) := by
    simpa only [Nat.zero_add] using presenting_follows changingOutputs 0
  have hroom : ∀ k, bytes.Allocatable (changingOutputs k).length := by
    rintro (_ | _ | _ | k)
    · exact bytes_allocatable (show (Memory.Demand.bytes 1).Met by decide)
    · exact bytes_allocatable (show (Memory.Demand.bytes 3).Met by decide)
    · exact bytes_allocatable (show (Memory.Demand.bytes 4).Met by decide)
    · exact bytes_allocatable (show (Memory.Demand.bytes 2).Met by decide)
  obtain ⟨k, s', hleast, hrun, hcount, -⟩ :=
    read_changing .bytes "C_GetOperationState" hfollows hroom ⟨3, by decide⟩
  have hthree : k = 3 := by
    refine hleast.unique ⟨by decide, ?_⟩
    rintro (_ | _ | _ | n) ⟨hpos, hle⟩
    · cases hpos
    · exact absurd hle (by decide)
    · exact absurd hle (by decide)
    · omega
  subst hthree
  exact ⟨s', hrun, hcount⟩

end Cryptoki.Negotiation
