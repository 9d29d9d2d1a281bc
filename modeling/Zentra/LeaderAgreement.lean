import Mathlib.Order.Fin.Basic
import Zentra.LeaderElection

/-!
# When tabs agree on their leader

Two leaders cannot both stay: as long as there are two, a message is on its way that makes one
of them step down, or makes the other send such a message.  This takes leaders that keep to
the terms they have heard of.

* `agreed_iff_orderly` — exactly the orderly runs agree on their leader;
* `stale_candidate_leads` — a run with two leaders at rest.
-/

open StepTrace

namespace Zentra

namespace CrossTab

variable {ι : Type}

/-- The election of a tab is going on, and its end has a timer. -/
def Tab.Runs (tab : Tab ι) : Prop :=
  tab.isLeader = false ∧ tab.electionTimer = true ∧ tab.isElectionInProgress = true

/-- A leader is a candidate no longer, and only an open tab leads or has timers. -/
structure Tab.Sane (tab : Tab ι) : Prop where
  settled : tab.isLeader = true → tab.electionTimer = false
  opened : tab.isLeader = true ∨ tab.initialElectionTimer = true ∨ tab.electionTimer = true ∨
    tab.resignElectionTimer = true → tab.started = true

/-- What a move can do: a tab leads as before, or with the term of its election; and its
election goes on as before, or has just been announced. -/
structure Lawful (tab : Tab ι) (move : Move ι) : Prop where
  sane : move.1.Sane
  leads : move.1.isLeader = true →
    (tab.isLeader = true ∧ move.1.currentLeaderTerm = tab.currentLeaderTerm) ∨
      (tab.Runs ∧ move.1.currentLeaderTerm = tab.electionTerm ∧
        move.2 = [.elected tab.electionTerm])
  runs : move.1.Runs →
    (tab.Runs ∧ move.1.electionTerm = tab.electionTerm ∧
        tab.currentLeaderTerm ≤ move.1.currentLeaderTerm) ∨
      move.2 = [.candidate move.1.electionTerm]

section Moves

variable {self sender : ι} {term : Nat} {tab : Tab ι}

theorem lawful_start (h : tab.Sane) (hclosed : tab.started = false) : Lawful tab (start tab) := by
  obtain ⟨hsettled, hopened⟩ := h
  constructor
  · constructor <;> grind [start]
  · grind [start]
  · grind [start, Tab.Runs]

theorem lawful_stop : Lawful tab (stop tab) := by
  constructor
  · constructor <;> simp [stop]
  · simp [stop]
  · simp [stop, Tab.Runs]

theorem lawful_onInitialElectionTimer (h : tab.Sane) (hopen : tab.started = true) :
    Lawful tab (onInitialElectionTimer tab) := by
  obtain ⟨hsettled, hopened⟩ := h
  constructor
  · constructor <;> grind [onInitialElectionTimer, initiateElection]
  · grind [onInitialElectionTimer, initiateElection]
  · grind [onInitialElectionTimer, initiateElection, Tab.Runs]

theorem lawful_onResignElectionTimer (h : tab.Sane) (hopen : tab.started = true) :
    Lawful tab (onResignElectionTimer tab) := by
  obtain ⟨hsettled, hopened⟩ := h
  constructor
  · constructor <;> grind [onResignElectionTimer, initiateElection]
  · grind [onResignElectionTimer, initiateElection]
  · grind [onResignElectionTimer, initiateElection, Tab.Runs]

theorem lawful_onLeaderTimeout (h : tab.Sane) (hopen : tab.started = true) :
    Lawful tab (onLeaderTimeout tab) := by
  obtain ⟨hsettled, hopened⟩ := h
  constructor
  · constructor <;> grind [onLeaderTimeout, initiateElection]
  · grind [onLeaderTimeout, initiateElection]
  · grind [onLeaderTimeout, initiateElection, Tab.Runs]

theorem lawful_onLeaderHeartbeatTimer (h : tab.Sane) :
    Lawful tab (onLeaderHeartbeatTimer tab) where
  sane := h
  leads := fun hleader => .inl ⟨hleader, rfl⟩
  runs := fun hruns => .inl ⟨hruns, rfl, le_rfl⟩

theorem lawful_onElectionTimer (h : tab.Sane) (hactive : tab.electionTimer = true) :
    Lawful tab (onElectionTimer self tab) := by
  obtain ⟨hsettled, hopened⟩ := h
  constructor
  · constructor <;> grind [onElectionTimer, becomeLeader]
  · grind [onElectionTimer, becomeLeader, Tab.Runs]
  · grind [onElectionTimer, becomeLeader, Tab.Runs]

theorem lawful_handle [LinearOrder ι] (h : tab.Sane) (hopen : tab.started = true)
    (message : Message) : Lawful tab (handle self sender tab message) := by
  obtain ⟨hsettled, hopened⟩ := h
  cases message with
  | candidate term =>
      constructor
      · constructor <;> grind [handle, handleCandidate]
      · grind [handle, handleCandidate]
      · grind [handle, handleCandidate, Tab.Runs]
  | elected term =>
      constructor
      · constructor <;> grind [handle, handleElected]
      · grind [handle, handleElected]
      · grind [handle, handleElected, Tab.Runs]
  | heartbeat term =>
      constructor
      · constructor <;> grind [handle, handleHeartbeat]
      · grind [handle, handleHeartbeat, outranked]
      · grind [handle, handleHeartbeat, Tab.Runs]
  | resign =>
      constructor
      · constructor <;> grind [handle, handleResign]
      · grind [handle, handleResign]
      · grind [handle, handleResign, Tab.Runs]

end Moves

def Announces (term : Nat) (message : Message) : Prop :=
  message = .elected term ∨ message = .heartbeat term

section Messages

variable [LinearOrder ι] {self sender : ι} {term : Nat} {tab : Tab ι} {message : Message}

/-- A message that a leader answers with a heartbeat. -/
def Provokes (self sender : ι) (term : Nat) (message : Message) : Prop :=
  (∃ lower ≤ term, message = .candidate lower) ∨ (message = .elected term ∧ self < sender)

/-- A leader steps down before an announcement that outranks it. -/
theorem handle_outranked (hannounces : Announces term message)
    (h : outranked self sender term tab = true) :
    (handle self sender tab message).1.isLeader = false := by
  have hle : tab.currentLeaderTerm ≤ term := by grind [outranked]
  obtain rfl | rfl := hannounces
  · simp [handle, handleElected, hle, h]
  · simp [handle, handleHeartbeat, hle, h]

theorem handle_isLeader (message : Message)
    (h : (handle self sender tab message).1.isLeader = true) : tab.isLeader = true := by
  cases message with
  | candidate term => grind [handle, handleCandidate]
  | elected term => grind [handle, handleElected]
  | heartbeat term => grind [handle, handleHeartbeat]
  | resign => grind [handle, handleResign]

theorem handle_provoked (hprovokes : Provokes self sender tab.currentLeaderTerm message)
    (hleader : tab.isLeader = true) :
    .heartbeat tab.currentLeaderTerm ∈ (handle self sender tab message).2 := by
  obtain ⟨lower, hle, rfl⟩ | ⟨rfl, hlt⟩ := hprovokes
  · simp [handle, handleCandidate, hleader, hle]
  · have hrank : outranked self sender tab.currentLeaderTerm tab = false := by
      simp [outranked, hlt.le]
    simp [handle, handleElected, hleader, hrank]

theorem handle_announced (hannounces : Announces term message) (hlt : tab.electionTerm < term)
    (hruns : (handle self sender tab message).1.Runs) :
    tab.electionTerm < (handle self sender tab message).1.currentLeaderTerm := by
  obtain rfl | rfl := hannounces
  · grind [handle, handleElected, Tab.Runs]
  · grind [handle, handleHeartbeat, Tab.Runs]

/-- A message is on its way that makes a tab step down before a leader, or makes the leader
send one. -/
def Resolving (s : System ι) (leader other : ι) : Prop :=
  (∃ message ∈ s.inbox leader other, Announces (s.tabs leader).currentLeaderTerm message) ∨
    ∃ message ∈ s.inbox other leader,
      Provokes leader other (s.tabs leader).currentLeaderTerm message

/-- Of two leaders one is about to step down, and a candidate is about to hear of a leader
whose term is above its own. -/
structure Inv (s : System ι) : Prop where
  sane : ∀ tab, (s.tabs tab).Sane
  leaders : ∀ leader other, leader ≠ other → (s.tabs leader).isLeader = true →
    (s.tabs other).isLeader = true →
    outranked other leader (s.tabs leader).currentLeaderTerm (s.tabs other) = true →
      Resolving s leader other
  candidates : ∀ leader other, leader ≠ other → (s.tabs leader).isLeader = true →
    (s.tabs other).Runs → (s.tabs other).electionTerm < (s.tabs leader).currentLeaderTerm →
      Resolving s leader other ∨
        (s.tabs other).electionTerm < (s.tabs other).currentLeaderTerm

end Messages

section Acts

variable [LinearOrder ι] {s s' : System ι} {tab leader other : ι} {move : Move ι}
  {lost : ι → Message → Prop} {message : Message}

/-- Messages to a tab are taken out of the channel, and nothing else changes. -/
structure Takes (s s' : System ι) (tab : ι) (lost : ι → Message → Prop) : Prop where
  tabs : s'.tabs = s.tabs
  kept : ∀ sender receiver, ∀ message ∈ s.inbox sender receiver,
    message ∈ s'.inbox sender receiver ∨ (receiver = tab ∧ lost sender message)

theorem mem_act {sender receiver : ι} (h : message ∈ s.inbox sender receiver) :
    message ∈ (s.act tab move).inbox sender receiver := by
  unfold System.act
  grind

theorem mem_act_posted (h : message ∈ move.2) (hne : other ≠ tab)
    (hopen : (s.tabs other).started = true) :
    message ∈ (s.act tab move).inbox tab other := by
  unfold System.act
  grind

@[simp] theorem act_tabs_self : (s.act tab move).tabs tab = move.1 := by simp [System.act]

theorem act_tabs_ne (h : other ≠ tab) : (s.act tab move).tabs other = s.tabs other := by
  simp [System.act, h]

/-- What is on its way between two tabs stays so, unless it is taken out. -/
theorem resolving_act (htakes : Takes s s' tab lost) (h : Resolving s leader other)
    (hterm : ((s'.act tab move).tabs leader).currentLeaderTerm =
      (s.tabs leader).currentLeaderTerm) :
    Resolving (s'.act tab move) leader other ∨
      (other = tab ∧ ∃ message, lost leader message ∧
        Announces (s.tabs leader).currentLeaderTerm message) ∨
      (leader = tab ∧ ∃ message, lost other message ∧
        Provokes leader other (s.tabs leader).currentLeaderTerm message) := by
  obtain ⟨message, hmem, hannounces⟩ | ⟨message, hmem, hprovokes⟩ := h
  · obtain hkept | ⟨htab, hlost⟩ := htakes.kept leader other message hmem
    · exact .inl (.inl ⟨message, mem_act hkept, by rwa [hterm]⟩)
    · exact .inr (.inl ⟨htab, message, hlost, hannounces⟩)
  · obtain hkept | ⟨htab, hlost⟩ := htakes.kept other leader message hmem
    · exact .inl (.inr ⟨message, mem_act hkept, by rwa [hterm]⟩)
    · exact .inr (.inr ⟨htab, message, hlost, hprovokes⟩)

/-- What a move does about the messages that it takes out. -/
structure Answers (s : System ι) (tab : ι) (move : Move ι) (lost : ι → Message → Prop) :
    Prop where
  resigns : ∀ sender message term, lost sender message → Announces term message →
    outranked tab sender term (s.tabs tab) = true → move.1.isLeader = false
  beats : ∀ sender message, lost sender message →
    Provokes tab sender (s.tabs tab).currentLeaderTerm message →
      (s.tabs tab).isLeader = true → move.1.isLeader = true →
        .heartbeat (s.tabs tab).currentLeaderTerm ∈ move.2
  hears : ∀ sender message term, lost sender message → Announces term message →
    (s.tabs tab).electionTerm < term → move.1.Runs →
      (s.tabs tab).electionTerm < move.1.currentLeaderTerm
  leads : (s.tabs tab).isLeader = false → move.1.isLeader = true →
    ∀ sender message, ¬ lost sender message

/-- The messages between a leader that has not moved and a tab that has. -/
theorem resolving_of_ne (htakes : Takes s s' tab lost) (hne : leader ≠ tab)
    (h : Resolving s leader tab) (hlost : ∀ message, lost leader message →
      ¬ Announces (s.tabs leader).currentLeaderTerm message) :
    Resolving (s'.act tab move) leader tab := by
  have hterm : ((s'.act tab move).tabs leader).currentLeaderTerm =
      (s.tabs leader).currentLeaderTerm := by rw [act_tabs_ne hne, htakes.tabs]
  obtain hkept | ⟨-, message, hmessage, hannounces⟩ | ⟨htab, -⟩ := resolving_act htakes h hterm
  · exact hkept
  · exact absurd hannounces (hlost message hmessage)
  · exact absurd htab hne

theorem resolving_of_others (htakes : Takes s s' tab lost) (hne : leader ≠ tab)
    (hne' : other ≠ tab) (h : Resolving s leader other) :
    Resolving (s'.act tab move) leader other := by
  have hterm : ((s'.act tab move).tabs leader).currentLeaderTerm =
      (s.tabs leader).currentLeaderTerm := by rw [act_tabs_ne hne, htakes.tabs]
  obtain hkept | ⟨htab, -⟩ | ⟨htab, -⟩ := resolving_act htakes h hterm
  · exact hkept
  · exact absurd htab hne'
  · exact absurd htab hne

theorem resolving_of_self (htakes : Takes s s' tab lost) (hanswers : Answers s tab move lost)
    (hne : other ≠ tab) (hleader : (s.tabs tab).isLeader = true)
    (hleader' : move.1.isLeader = true)
    (hterm : move.1.currentLeaderTerm = (s.tabs tab).currentLeaderTerm)
    (hopen : (s.tabs other).started = true) (h : Resolving s tab other) :
    Resolving (s'.act tab move) tab other := by
  have hterm' : ((s'.act tab move).tabs tab).currentLeaderTerm =
      (s.tabs tab).currentLeaderTerm := by rw [act_tabs_self, hterm]
  obtain hkept | ⟨htab, -⟩ | ⟨-, message, hmessage, hprovokes⟩ := resolving_act htakes h hterm'
  · exact hkept
  · exact absurd htab hne
  · have hbeat := hanswers.beats other message hmessage hprovokes hleader hleader'
    refine .inl ⟨_, mem_act_posted hbeat hne ?_, .inr ?_⟩
    · rwa [htakes.tabs]
    · rw [hterm']

theorem resolving_of_elected (htakes : Takes s s' tab lost) (hne : other ≠ tab)
    (helected : move.2 = [.elected (s.tabs tab).electionTerm])
    (hterm : move.1.currentLeaderTerm = (s.tabs tab).electionTerm)
    (hopen : (s.tabs other).started = true) : Resolving (s'.act tab move) tab other := by
  have hposted : Message.elected (s.tabs tab).electionTerm ∈ move.2 := by simp [helected]
  refine .inl ⟨_, mem_act_posted hposted hne ?_, .inl ?_⟩
  · rwa [htakes.tabs]
  · rw [act_tabs_self, hterm]

theorem resolving_of_provokes (htakes : Takes s s' tab lost) (hne : leader ≠ tab)
    (hposted : message ∈ move.2)
    (hprovokes : Provokes leader tab (s.tabs leader).currentLeaderTerm message)
    (hopen : (s.tabs leader).started = true) : Resolving (s'.act tab move) leader tab := by
  refine .inr ⟨message, mem_act_posted hposted hne ?_, ?_⟩
  · rwa [htakes.tabs]
  · rwa [act_tabs_ne hne, htakes.tabs]

section Keeps

variable (hinv : Inv s) (htakes : Takes s s' tab lost) (hlawful : Lawful (s.tabs tab) move)
  (hanswers : Answers s tab move lost)

include hinv htakes hlawful hanswers

theorem leaders_of_self (hne : other ≠ tab) (hleader : move.1.isLeader = true)
    (hother : (s.tabs other).isLeader = true)
    (hrank : outranked other tab move.1.currentLeaderTerm (s.tabs other) = true) :
    Resolving (s'.act tab move) tab other := by
  have hopen := (hinv.sane other).opened (.inl hother)
  obtain ⟨hold, hterm⟩ | ⟨-, hterm, helected⟩ := hlawful.leads hleader
  · rw [hterm] at hrank
    have hbefore := hinv.leaders tab other hne.symm hold hother hrank
    exact resolving_of_self htakes hanswers hne hold hleader hterm hopen hbefore
  · exact resolving_of_elected htakes hne helected hterm hopen

theorem leaders_of_ne (hne : leader ≠ tab) (hleader : (s.tabs leader).isLeader = true)
    (hother : move.1.isLeader = true)
    (hrank : outranked tab leader (s.tabs leader).currentLeaderTerm move.1 = true)
    (hterms : (s.tabs tab).isLeader = false → move.1.isLeader = true →
      (s.tabs tab).currentLeaderTerm ≤ (s.tabs tab).electionTerm) :
    Resolving (s'.act tab move) leader tab := by
  obtain ⟨hold, hterm⟩ | ⟨hruns, hterm, helected⟩ := hlawful.leads hother
  · have hrank' : outranked tab leader (s.tabs leader).currentLeaderTerm (s.tabs tab) = true := by
      rwa [outranked, hterm, ← outranked] at hrank
    refine resolving_of_ne htakes hne (hinv.leaders leader tab hne hleader hold hrank') ?_
    intro message hlost hannounces
    have hresigns := hanswers.resigns leader message _ hlost hannounces hrank'
    rw [hother] at hresigns
    cases hresigns
  · have hheard := hterms hruns.1 hother
    -- the new leader has a lower term, or the same term and a greater id
    have hlower : (s.tabs tab).electionTerm < (s.tabs leader).currentLeaderTerm ∨
        (s.tabs leader).currentLeaderTerm = (s.tabs tab).electionTerm ∧ leader < tab := by
      rw [outranked, hterm] at hrank
      simpa using hrank
    obtain hlt | ⟨heq, hlt⟩ := hlower
    · obtain hbefore | hlate := hinv.candidates leader tab hne hleader hruns hlt
      · refine resolving_of_ne htakes hne hbefore ?_
        intro message hlost
        exact absurd hlost (hanswers.leads hruns.1 hother leader message)
      · exact absurd hlate (Nat.not_lt.2 hheard)
    · have hopen := (hinv.sane leader).opened (.inl hleader)
      refine resolving_of_provokes htakes hne ?_ (.inr ⟨rfl, hlt⟩) hopen
      rw [helected, heq]
      exact List.mem_cons_self

theorem candidates_of_self (hne : other ≠ tab) (hleader : move.1.isLeader = true)
    (hruns : (s.tabs other).Runs)
    (hlt : (s.tabs other).electionTerm < move.1.currentLeaderTerm) :
    Resolving (s'.act tab move) tab other ∨
      (s.tabs other).electionTerm < (s.tabs other).currentLeaderTerm := by
  have hopen := (hinv.sane other).opened (.inr (.inr (.inl hruns.2.1)))
  obtain ⟨hold, hterm⟩ | ⟨-, hterm, helected⟩ := hlawful.leads hleader
  · rw [hterm] at hlt
    obtain hbefore | hheard := hinv.candidates tab other hne.symm hold hruns hlt
    · exact .inl (resolving_of_self htakes hanswers hne hold hleader hterm hopen hbefore)
    · exact .inr hheard
  · exact .inl (resolving_of_elected htakes hne helected hterm hopen)

theorem candidates_of_ne (hne : leader ≠ tab) (hleader : (s.tabs leader).isLeader = true)
    (hruns : move.1.Runs) (hlt : move.1.electionTerm < (s.tabs leader).currentLeaderTerm) :
    Resolving (s'.act tab move) leader tab ∨ move.1.electionTerm < move.1.currentLeaderTerm := by
  obtain ⟨hold, hterm, hle⟩ | hannounced := hlawful.runs hruns
  · rw [hterm] at hlt ⊢
    obtain hbefore | hheard := hinv.candidates leader tab hne hleader hold hlt
    · by_cases hlost : ∃ message, lost leader message ∧
          Announces (s.tabs leader).currentLeaderTerm message
      · obtain ⟨message, hmessage, hannounces⟩ := hlost
        exact .inr (hanswers.hears leader message _ hmessage hannounces hlt hruns)
      · refine .inl (resolving_of_ne htakes hne hbefore ?_)
        intro message hmessage hannounces
        exact hlost ⟨message, hmessage, hannounces⟩
    · exact .inr (hheard.trans_le hle)
  · have hopen := (hinv.sane leader).opened (.inl hleader)
    refine .inl (resolving_of_provokes htakes hne ?_ (.inl ⟨_, hlt.le, rfl⟩) hopen)
    rw [hannounced]
    exact List.mem_cons_self

/-- **A move keeps the invariant**, if a tab that becomes the leader has heard of no term above
that of its election. -/
theorem Inv.act (hterms : (s.tabs tab).isLeader = false → move.1.isLeader = true →
      (s.tabs tab).currentLeaderTerm ≤ (s.tabs tab).electionTerm) :
    Inv (s'.act tab move) := by
  have htabs : ∀ other, other ≠ tab → (s'.act tab move).tabs other = s.tabs other := by
    intro other hne
    rw [act_tabs_ne hne, htakes.tabs]
  constructor
  · intro other
    by_cases hother : other = tab
    · subst hother
      rw [act_tabs_self]
      exact hlawful.sane
    · rw [htabs other hother]
      exact hinv.sane other
  · intro leader other hne hleader hother hrank
    by_cases hltab : leader = tab
    · subst hltab
      rw [act_tabs_self] at hleader hrank
      rw [htabs other hne.symm] at hother hrank
      exact leaders_of_self hinv htakes hlawful hanswers hne.symm hleader hother hrank
    · rw [htabs leader hltab] at hleader hrank
      by_cases hotab : other = tab
      · subst hotab
        rw [act_tabs_self] at hother hrank
        exact leaders_of_ne hinv htakes hlawful hanswers hne hleader hother hrank hterms
      · rw [htabs other hotab] at hother hrank
        exact resolving_of_others htakes hltab hotab
          (hinv.leaders leader other hne hleader hother hrank)
  · intro leader other hne hleader hruns hlt
    by_cases hltab : leader = tab
    · subst hltab
      rw [act_tabs_self] at hleader hlt
      rw [htabs other hne.symm] at hruns hlt ⊢
      exact candidates_of_self hinv htakes hlawful hanswers hne.symm hleader hruns hlt
    · rw [htabs leader hltab] at hleader hlt
      by_cases hotab : other = tab
      · subst hotab
        rw [act_tabs_self] at hruns hlt ⊢
        exact candidates_of_ne hinv htakes hlawful hanswers hne hleader hruns hlt
      · rw [htabs other hotab] at hruns hlt ⊢
        exact (hinv.candidates leader other hne hleader hruns hlt).imp_left
          (resolving_of_others htakes hltab hotab)

end Keeps

end Acts

section Respects

variable {self sender : ι} {tab : Tab ι} {move : Move ι}

/-- A move does not lower the known term, and a leader knows itself. -/
def Respects (self : ι) (tab : Tab ι) (move : Move ι) : Prop :=
  tab.currentLeaderTerm ≤ move.1.currentLeaderTerm ∧
    (move.1.isLeader = true → move.1.currentLeaderId = some self)

variable (hself : tab.isLeader = true → tab.currentLeaderId = some self)

include hself

theorem respects_start : Respects self tab (start tab) := ⟨le_rfl, hself⟩

omit hself in
theorem respects_stop : Respects self tab (stop tab) := ⟨le_rfl, by simp [stop]⟩

theorem respects_onInitialElectionTimer : Respects self tab (onInitialElectionTimer tab) := by
  grind [Respects, onInitialElectionTimer, initiateElection]

theorem respects_onResignElectionTimer : Respects self tab (onResignElectionTimer tab) := by
  grind [Respects, onResignElectionTimer, initiateElection]

omit hself in
theorem respects_onLeaderTimeout (hleader : tab.isLeader = false) :
    Respects self tab (onLeaderTimeout tab) := by
  grind [Respects, onLeaderTimeout, initiateElection]

theorem respects_onLeaderHeartbeatTimer : Respects self tab (onLeaderHeartbeatTimer tab) :=
  ⟨le_rfl, hself⟩

omit hself in
/-- The end of an election lowers the known term if a higher one was heard of meanwhile. -/
theorem respects_onElectionTimer (hsane : tab.Sane) (hactive : tab.electionTimer = true) :
    Respects self tab (onElectionTimer self tab) ↔
      (tab.isElectionInProgress = true → tab.currentLeaderId = none →
        tab.currentLeaderTerm ≤ tab.electionTerm) := by
  have hsettled := hsane.settled
  grind [Respects, onElectionTimer, becomeLeader]

/-- A leader takes another one for the leader if it gets a heartbeat of its own term from a tab
with a greater id. -/
theorem respects_handle [LinearOrder ι] (hne : sender ≠ self) (message : Message) :
    Respects self tab (handle self sender tab message) ↔
      ∀ term, message = .heartbeat term → tab.isLeader = true → term = tab.currentLeaderTerm →
        ¬ self < sender := by
  cases message with
  | candidate term => grind [Respects, handle, handleCandidate]
  | elected term => grind [Respects, handle, handleElected, outranked]
  | resign => grind [Respects, handle, handleResign]
  | heartbeat term =>
      have horder : self < sender ∨ sender < self := (lt_or_gt_of_ne hne).symm
      grind [Respects, handle, handleHeartbeat, outranked]

end Respects

section Step

variable [LinearOrder ι] {s s' t : System ι} {tab : ι} {move : Move ι} {event : Event ι}
  {lost : ι → Message → Prop}

structure Whole (s : System ι) : Prop where
  inv : Inv s
  selfLed : SelfLed s
  peak : ∀ tab, s.peak tab = (s.tabs tab).currentLeaderTerm
  own : ∀ tab, s.inbox tab tab = []

/-- A step is a move of one tab, which may take messages out of the channel. -/
structure Moves (s t : System ι) (event : Event ι) (s' : System ι) (tab : ι) (move : Move ι)
    (lost : ι → Message → Prop) : Prop where
  act : t = s'.act tab move
  takes : Takes s s' tab lost
  lawful : Lawful (s.tabs tab) move
  answers : Answers s tab move lost
  peak : s'.peak = s.peak
  own : ∀ tab, s'.inbox tab tab = []
  respects : Respects tab (s.tabs tab) move ↔ Orderly s event

theorem moves_of_timer (hw : Whole s) (hlawful : Lawful (s.tabs tab) move)
    (hrespects : Respects tab (s.tabs tab) move ↔ Orderly s event) :
    Moves s (s.act tab move) event s tab move fun _ _ => False where
  act := rfl
  takes := ⟨rfl, fun _ _ _ hmem => .inl hmem⟩
  lawful := hlawful
  answers := ⟨fun _ _ _ hlost => hlost.elim, fun _ _ hlost => hlost.elim,
    fun _ _ _ hlost => hlost.elim, fun _ _ _ _ hlost => hlost⟩
  peak := rfl
  own := hw.own
  respects := hrespects

theorem moves_of_stop (hw : Whole s) :
    Moves s ((s.close tab).act tab (stop (s.tabs tab))) (.stop tab) (s.close tab) tab
      (stop (s.tabs tab)) fun _ _ => True where
  act := rfl
  takes := by
    refine ⟨rfl, fun sender receiver message hmem => ?_⟩
    by_cases htab : receiver = tab
    · exact .inr ⟨htab, trivial⟩
    · exact .inl (by simpa [System.close, htab] using hmem)
  lawful := lawful_stop
  answers := by constructor <;> simp [stop, Tab.Runs]
  peak := rfl
  own := fun other => by simp [System.close, hw.own other]
  respects := iff_of_true respects_stop trivial

theorem moves_of_deliver {sender : ι} {message : Message} {rest : List Message} (hw : Whole s)
    (hinbox : s.inbox sender tab = message :: rest) (hopen : (s.tabs tab).started = true) :
    Moves s ((s.pop sender tab rest).act tab (handle tab sender (s.tabs tab) message))
      (.deliver sender tab) (s.pop sender tab rest) tab (handle tab sender (s.tabs tab) message)
      fun source lost => source = sender ∧ lost = message where
  act := rfl
  takes := by
    refine ⟨rfl, fun source receiver other hmem => ?_⟩
    by_cases hpair : source = sender ∧ receiver = tab
    · obtain ⟨rfl, rfl⟩ := hpair
      rw [hinbox] at hmem
      obtain hfirst | hrest := List.mem_cons.1 hmem
      · exact .inr ⟨rfl, rfl, hfirst⟩
      · exact .inl (by simpa [System.pop] using hrest)
    · exact .inl (by simpa [System.pop, hpair] using hmem)
  lawful := lawful_handle (hw.inv.sane tab) hopen message
  answers := by
    constructor
    · intro source other term hlost hannounces hrank
      obtain ⟨rfl, rfl⟩ := hlost
      exact handle_outranked hannounces hrank
    · intro source other hlost hprovokes hleader _
      obtain ⟨rfl, rfl⟩ := hlost
      exact handle_provoked hprovokes hleader
    · intro source other term hlost hannounces hlt hruns
      obtain ⟨rfl, rfl⟩ := hlost
      exact handle_announced hannounces hlt hruns
    · intro hfollower hleader
      rw [handle_isLeader message hleader] at hfollower
      cases hfollower
  peak := rfl
  own := by
    intro other
    have hne : ¬ (other = sender ∧ other = tab) := by
      intro hboth
      rw [← hboth.1, ← hboth.2, hw.own other] at hinbox
      cases hinbox
    simp [System.pop, hne, hw.own other]
  respects := by
    have hne : sender ≠ tab := by
      intro hsame
      rw [hsame, hw.own tab] at hinbox
      cases hinbox
    rw [respects_handle (hw.selfLed tab) hne]
    simp only [Orderly, hinbox]
    constructor
    · intro h term rest' hcons
      exact h term (List.cons.inj hcons).1
    · intro h term hmessage
      exact h term rest (by rw [hmessage])

/-- **Every step is a move** of one tab. -/
theorem step_moves (hw : Whole s) (h : step s event = some t) :
    ∃ s' tab move lost, Moves s t event s' tab move lost := by
  have hsane := hw.inv.sane
  have hself := hw.selfLed
  cases event with
  | start tab =>
      rw [CrossTab.step] at h
      split at h
      next => cases h
      next hclosed =>
        cases h
        have hlawful := lawful_start (hsane tab) (by simpa using hclosed)
        exact ⟨_, _, _, _, moves_of_timer hw hlawful
          (iff_of_true (respects_start (hself tab)) trivial)⟩
  | stop tab =>
      rw [CrossTab.step] at h
      split at h
      next =>
        cases h
        exact ⟨_, _, _, _, moves_of_stop hw⟩
      next => cases h
  | initialElectionTimer tab =>
      rw [CrossTab.step] at h
      split at h
      next hactive =>
        cases h
        have hopen := (hsane tab).opened (.inr (.inl hactive))
        exact ⟨_, _, _, _, moves_of_timer hw (lawful_onInitialElectionTimer (hsane tab) hopen)
          (iff_of_true (respects_onInitialElectionTimer (hself tab)) trivial)⟩
      next => cases h
  | resignElectionTimer tab =>
      rw [CrossTab.step] at h
      split at h
      next hactive =>
        cases h
        have hopen := (hsane tab).opened (.inr (.inr (.inr hactive)))
        exact ⟨_, _, _, _, moves_of_timer hw (lawful_onResignElectionTimer (hsane tab) hopen)
          (iff_of_true (respects_onResignElectionTimer (hself tab)) trivial)⟩
      next => cases h
  | electionTimer tab =>
      rw [CrossTab.step] at h
      split at h
      next hactive =>
        cases h
        exact ⟨_, _, _, _, moves_of_timer hw (lawful_onElectionTimer (hsane tab) hactive)
          (respects_onElectionTimer (hsane tab) hactive)⟩
      next => cases h
  | leaderHeartbeatTimer tab =>
      rw [CrossTab.step] at h
      split at h
      next =>
        cases h
        exact ⟨_, _, _, _, moves_of_timer hw (lawful_onLeaderHeartbeatTimer (hsane tab))
          (iff_of_true (respects_onLeaderHeartbeatTimer (hself tab)) trivial)⟩
      next => cases h
  | leaderTimeout tab =>
      rw [CrossTab.step] at h
      split at h
      next htimeout =>
        cases h
        have hleader : (s.tabs tab).isLeader = false := by simpa using htimeout.2.1
        exact ⟨_, _, _, _, moves_of_timer hw (lawful_onLeaderTimeout (hsane tab) htimeout.1)
          (iff_of_true (respects_onLeaderTimeout hleader) trivial)⟩
      next => cases h
  | deliver sender receiver =>
      rw [CrossTab.step] at h
      split at h
      next => cases h
      next message rest hinbox =>
        split at h
        next hopen =>
          cases h
          exact ⟨_, _, _, _, moves_of_deliver hw hinbox hopen⟩
        next => cases h

theorem Whole.start : Whole ({} : System ι) := by
  constructor
  · constructor
    · exact fun tab => ⟨by simp, by simp⟩
    · intro leader other _ hleader
      cases hleader
    · intro leader other _ hleader
      cases hleader
  · intro tab hleader
    cases hleader
  · exact fun tab => rfl
  · exact fun tab => rfl

/-- **Two leaders are never at rest.** -/
theorem Whole.agreed (hw : Whole s) : Agreed s := by
  constructor
  · intro hquiet _ tab other htab hother
    by_contra hne
    have hnone : ∀ leader other, ¬ Resolving s leader other := by
      intro leader other hresolving
      unfold Resolving at hresolving
      simp [hquiet leader other, hquiet other leader] at hresolving
    have horder : outranked other tab (s.tabs tab).currentLeaderTerm (s.tabs other) = true ∨
        outranked tab other (s.tabs other).currentLeaderTerm (s.tabs tab) = true := by
      have hids := lt_or_gt_of_ne hne
      grind [outranked]
    obtain hrank | hrank := horder
    · exact hnone tab other (hw.inv.leaders tab other hne htab hother hrank)
    · exact hnone other tab (hw.inv.leaders other tab (Ne.symm hne) hother htab hrank)
  · exact hw.selfLed
  · exact fun tab => (hw.peak tab).le

theorem Whole.step (hw : Whole s) (hcond : Orderly s event)
    (h : CrossTab.step s event = some t) : Whole t := by
  obtain ⟨s', tab, move, lost, hmoves⟩ := step_moves hw h
  obtain ⟨hterm, hself⟩ := hmoves.respects.2 hcond
  rw [hmoves.act]
  constructor
  · refine Inv.act hw.inv hmoves.takes hmoves.lawful hmoves.answers fun hfollower hleader => ?_
    obtain ⟨hold, -⟩ | ⟨-, helection, -⟩ := hmoves.lawful.leads hleader
    · rw [hold] at hfollower
      cases hfollower
    · rwa [← helection]
  · intro other hother
    by_cases htab : other = tab
    · subst htab
      rw [act_tabs_self] at hother ⊢
      exact hself hother
    · rw [act_tabs_ne htab, hmoves.takes.tabs] at hother ⊢
      exact hw.selfLed other hother
  · intro other
    by_cases htab : other = tab
    · subst htab
      have hpeak := hw.peak other
      simp [System.act, hmoves.peak, hpeak, hterm]
    · rw [act_tabs_ne htab, hmoves.takes.tabs, ← hw.peak other]
      simp [System.act, hmoves.peak, htab]
  · intro other
    have hown := hmoves.own other
    unfold System.act
    grind

theorem Whole.orderly (hw : Whole s) (h : CrossTab.step s event = some t) (hgood : Agreed t) :
    Orderly s event := by
  obtain ⟨s', tab, move, lost, hmoves⟩ := step_moves hw h
  rw [← hmoves.respects]
  have hself := hgood.selfLed tab
  have hterms := hgood.termsGrow tab
  have hpeak := hw.peak tab
  rw [hmoves.act, act_tabs_self] at hself hterms
  refine ⟨?_, hself⟩
  have hmax : (s'.act tab move).peak tab = max (s.peak tab) move.1.currentLeaderTerm := by
    simp [System.act, hmoves.peak]
  rw [hmax, hpeak] at hterms
  exact (le_max_left _ _).trans hterms

end Step

/-- **When tabs agree on their leader.**  Along a run of any tabs, what is claimed holds in
every state exactly if every step is orderly. -/
theorem agreed_iff_orderly [LinearOrder ι] (events : List (Event ι)) (t : System ι)
    (hrun : run step {} events = some t) :
    Always step Agreed {} events ↔ Allowed step Orderly {} events :=
  always_iff_allowed Whole (fun _ hw => hw.agreed)
    (fun _ _ _ hw hcond hstep => hw.step hcond hstep)
    (fun _ _ _ hw hstep hgood => hw.orderly hstep hgood) events {} t Whole.start hrun

/-- Two tabs, of which one is elected. -/
def election : List (Event (Fin 2)) :=
  [.start 0, .start 1, .initialElectionTimer 0, .deliver 0 1, .electionTimer 0, .deliver 0 1]

theorem agreed_iff_orderly_election :
    ∃ t : System (Fin 2), run step {} election = some t ∧
      (Always step Agreed ({} : System (Fin 2)) election ↔ Allowed step Orderly {} election) := by
  obtain ⟨t, ht⟩ : ∃ t, run step ({} : System (Fin 2)) election = some t := ⟨_, rfl⟩
  exact ⟨t, ht, agreed_iff_orderly election t ht⟩

/-- Three tabs are candidates with the terms 1, 2 and 3.  The second is elected first; the
first has heard of the third's term, ignores that, and becomes the leader as well. -/
def twoElections : List (Event (Fin 3)) :=
  [.start 0, .start 1, .start 2,
    .initialElectionTimer 0, .deliver 0 1, .deliver 0 2,
    .initialElectionTimer 1, .deliver 1 2, .initialElectionTimer 2,
    .deliver 1 0, .deliver 2 0, .deliver 2 1,
    .electionTimer 1, .deliver 1 0, .deliver 1 2,
    .leaderHeartbeatTimer 1, .deliver 1 0, .deliver 1 2,
    .electionTimer 0, .deliver 0 1, .deliver 0 2,
    .leaderHeartbeatTimer 0, .deliver 0 1, .deliver 0 2]

/-- **Two leaders at rest.**  All messages have arrived, both leaders have been heard of, and
neither has stepped down. -/
theorem stale_candidate_leads :
    ∃ t : System (Fin 3), Exec step {} twoElections t ∧ ¬ Agreement t := by
  obtain ⟨t, hexec, hquiet, hheard, hfirst, hsecond⟩ : ∃ t : System (Fin 3),
      Exec step {} twoElections t ∧
        (∀ sender receiver, t.inbox sender receiver = []) ∧
        (∀ tab, (t.tabs tab).isLeader = true → t.beaten tab = true) ∧
        (t.tabs 0).isLeader = true ∧ (t.tabs 1).isLeader = true :=
    exists_exec (by decide +kernel)
  refine ⟨t, hexec, fun hagreement => ?_⟩
  exact absurd (hagreement hquiet hheard 0 1 hfirst hsecond) (by decide)

end CrossTab

end Zentra
