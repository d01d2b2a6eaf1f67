import Cryptoki.Proofs.Notifications

/-! What is left registered on a connection once sessions are closed. Closing releases registrations
whatever the module answers, but not when the library lacks the function: then nothing is called and
nothing is released (`Host.close_releases_iff`). -/

namespace Cryptoki.Host

variable {κ η ρ μ : Type} {host : Host κ η ρ μ} {handle : Nat}
  {allocator : Allocator} {library : Library} {request : Request κ η}

theorem registrations_of_length_le (h : host.handles.length ≤ handle) :
    host.registrations handle = {} := by
  unfold registrations
  rw [List.getElem?_eq_none h]

/-- What is registered after a request that does the same to the registrations whatever the module
replies, and nothing where there are none. -/
theorem registrations_perform [Allocator] (replies : Replies η ρ μ)
    {release : Registrations κ → Registrations κ} (hrequest : request.ConcernsSessions)
    (hlibrary : host.library handle = .ok library) (hprovides : library.Provides request.entry)
    (hrelease : ∀ reply r, request.revise reply r = release r) (hnothing : release {} = {}) :
    ((perform replies handle request).run host).2.registrations handle =
      release (host.registrations handle) := by
  obtain ⟨reply, called, hcall⟩ : ∃ reply called,
      call replies library ⟨request.entry, request.arguments handle⟩ (host.enter request) =
        (reply, called) := ⟨_, _, rfl⟩
  by_cases hvalid : handle < host.handles.length
  · rw [perform_called hrequest hlibrary hprovides hcall]
    exact (registrations_called hvalid hcall _).trans (hrelease reply _)
  · -- a handle that was never given out has nothing registered, before and after
    have hbeyond := Nat.le_of_not_lt hvalid
    have hsame := (perform_performed replies handle host request).sameConnections.handles
    rw [registrations_of_length_le hbeyond, registrations_of_length_le (hsame ▸ hbeyond), hnothing]

/-- The registrations of closed sessions are released, and all others stay in order, exactly when
the library has the function or there is nothing to release; the module may return any status. -/
theorem close_releases_iff (replies : Replies η ρ μ) {host : Host κ η ρ μ} {handle : Nat}
    {library : Library} (hlibrary : host.library handle = .ok library)
    (hunique : (host.registrations handle).sessions.Nodup) :
    let left (request : Request κ η) :=
      (((perform replies handle request).run host).2.registrations handle).entries
    let entries := (host.registrations handle).entries
    (∀ session, (left (.closeSession session) = entries.filter fun e => e.1 != session) ↔
      library.Provides .closeSession ∨ session ∉ (host.registrations handle).sessions) ∧
    (∀ slot, left (.closeAllSessions slot) = [] ↔
      library.Provides .closeAllSessions ∨ entries = []) := by
  intro left entries
  have missing (request : Request κ η) (hrequest : request.ConcernsSessions)
      (h : ¬library.Provides request.entry) : left request = entries := by
    simp only [left, entries, perform_unprovided hrequest hlibrary h]
  refine ⟨fun session => ?_, fun slot => ?_⟩
  · let request : Request κ η := .closeSession session
    by_cases hprovides : library.Provides request.entry
    · have hrequest : request.ConcernsSessions := trivial
      have hrelease := registrations_perform replies hrequest hlibrary hprovides
        (fun _ _ => rfl) rfl
      have hleft : left request = entries.filter fun e => e.1 != session := by
        rw [← Registrations.entries_remove hunique]
        exact congrArg Registrations.entries hrelease
      exact iff_of_true hleft (.inl hprovides)
    · rw [missing request trivial hprovides, eq_comm, List.filter_eq_self, Registrations.sessions,
        List.mem_map]
      simp only [show ¬library.Provides .closeSession from hprovides, false_or, bne_iff_ne,
        not_exists, not_and]
      exact Iff.rfl
  · let request : Request κ η := .closeAllSessions slot
    by_cases hprovides : library.Provides request.entry
    · have hrequest : request.ConcernsSessions := trivial
      have hrelease := registrations_perform replies hrequest hlibrary hprovides
        (fun _ _ => rfl) rfl
      have hleft : left request = [] := congrArg Registrations.entries hrelease
      exact iff_of_true hleft (.inl hprovides)
    · rw [missing request trivial hprovides]
      simp only [show ¬library.Provides .closeAllSessions from hprovides, false_or]

end Cryptoki.Host

namespace Cryptoki.Host

open Simulation

/-- An application with a library, and a listener registered for its session 5. -/
def listening (library : Library) : Host String Unit Unit Unit :=
  ((perform openFive 0 (.openSession 0 4 (some "listener"))).run ((connect library).run bare).2).2

/-- A module that refuses every call. -/
def refusing : Replies Unit Unit Unit := fun _ _ _ => pure { status := Status.generalError }

/-- A module that refuses to close sessions makes no difference to what is released. -/
theorem close_releases_refused :
    let host := listening sessionLibrary
    let answered (request : Request String Unit) := (perform refusing 0 request).run host
    host.library 0 = .ok sessionLibrary ∧ (host.registrations 0).sessions = [5] ∧
      (answered (.closeSession 5)).1.result =
        .error (.error (.status "C_CloseSession" Status.generalError)) ∧
      ((answered (.closeSession 5)).2.registrations 0).entries = [] ∧
      ((answered (.closeSession 6)).2.registrations 0).entries = [(5, "listener")] ∧
      ((answered (.closeAllSessions 0)).2.registrations 0).entries = [] := by
  intro host answered
  have hunique : (host.registrations 0).sessions.Nodup := by decide
  have hlibrary : host.library 0 = .ok sessionLibrary := rfl
  obtain ⟨hclose, hcloseAll⟩ := close_releases_iff refusing hlibrary hunique
  refine ⟨rfl, rfl, rfl, ?_, ?_, ?_⟩
  · exact (hclose 5).mpr (.inl ⟨_, rfl, by decide⟩)
  · exact (hclose 6).mpr (.inl ⟨_, rfl, by decide⟩)
  · exact (hcloseAll 0).mpr (.inl ⟨_, rfl, by decide⟩)

/-- Where the library lacks the function, closing fails and the listener stays registered. -/
theorem close_unprovided_keeps :
    let library : Library := ⟨"sessions", some [.openSession], false⟩
    let host := listening library
    let answered (request : Request String Unit) := (perform openFive 0 request).run host
    host.library 0 = .ok library ∧ (host.registrations 0).sessions.Nodup ∧
      (answered (.closeSession 5)).1.result =
        .error (.error (.functionNotSupported "C_CloseSession")) ∧
      (answered (.closeAllSessions 0)).1.result =
        .error (.error (.functionNotSupported "C_CloseAllSessions")) ∧
      ¬(((answered (.closeSession 5)).2.registrations 0).entries =
        (host.registrations 0).entries.filter fun e => e.1 != 5) ∧
      ((answered (.closeAllSessions 0)).2.registrations 0).entries ≠ [] := by
  intro library host answered
  have hclosed : ((answered (.closeSession 5)).2.registrations 0).entries = [(5, "listener")] := rfl
  have hclosedAll : ((answered (.closeAllSessions 0)).2.registrations 0).entries =
      [(5, "listener")] := rfl
  have hentries : (host.registrations 0).entries = [(5, "listener")] := rfl
  refine ⟨rfl, by decide, rfl, rfl, ?_, ?_⟩
  · rw [hclosed, hentries]
    decide
  · rw [hclosedAll]
    decide

end Cryptoki.Host
