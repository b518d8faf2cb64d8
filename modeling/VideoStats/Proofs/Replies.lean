import VideoStats.Bot.Handler

set_option autoImplicit false

namespace VideoStats

namespace Service

def Call.isReply : Call → Bool
  | .reply _ => true
  | _ => false

def endWorld {α : Type} : EStateM.Result Fault World α → World
  | .ok _ w => w
  | .error _ w => w

/-- The record of `w'` is that of `w` followed by calls that are not replies. -/
def Extends (w w' : World) : Prop :=
  ∃ mid : List Call, (∀ c ∈ mid, c.isReply = false) ∧ w'.calls = w.calls ++ mid

theorem Extends.refl (w : World) : Extends w w := ⟨[], by simp, by simp⟩

theorem Extends.trans {w₁ w₂ w₃ : World} (h₁ : Extends w₁ w₂) (h₂ : Extends w₂ w₃) :
    Extends w₁ w₃ := by
  obtain ⟨m₁, hm₁, e₁⟩ := h₁
  obtain ⟨m₂, hm₂, e₂⟩ := h₂
  refine ⟨m₁ ++ m₂, fun c hc => ?_, by simp [e₁, e₂]⟩
  rcases List.mem_append.1 hc with hc | hc
  · exact hm₁ c hc
  · exact hm₂ c hc

def Quiet {α : Type} (x : Act α) : Prop := ∀ w, Extends w (endWorld (x.run w))

variable {α β : Type}

theorem run_tryCatch (x : Act α) (h : Fault → Act α) (w : World) :
    (tryCatch x h).run w = match x.run w with
      | .ok a w' => .ok a w'
      | .error e w' => (h e).run w' := by
  change EStateM.tryCatch x h w = _
  simp only [EStateM.run]
  unfold EStateM.tryCatch
  cases x w <;> rfl

namespace Quiet

theorem pure (a : α) : Quiet (pure a : Act α) := fun w => Extends.refl w

theorem get : Quiet (get : Act World) := fun w => Extends.refl w

theorem throw (e : Fault) : Quiet (throw e : Act α) := fun w => Extends.refl w

theorem modify {f : World → World} (hf : ∀ w, (f w).calls = w.calls) : Quiet (modify f) :=
  fun w => ⟨[], by simp, by simp [endWorld, hf]⟩

theorem record {c : Call} (hc : c.isReply = false) : Quiet (record c) :=
  fun w => ⟨[c], by simp [hc], rfl⟩

theorem bind {x : Act α} {f : α → Act β} (hx : Quiet x) (hf : ∀ a, Quiet (f a)) :
    Quiet (x >>= f) := by
  intro w
  have h := hx w
  rw [EStateM.run_bind]
  cases hr : x.run w with
  | ok a w₁ =>
    rw [hr] at h
    exact h.trans (hf a w₁)
  | error e w₁ =>
    rw [hr] at h
    exact h

theorem tryCatch {x : Act α} {h : Fault → Act α} (hx : Quiet x) (hh : ∀ e, Quiet (h e)) :
    Quiet (tryCatch x h) := by
  intro w
  have hw := hx w
  rw [run_tryCatch]
  cases hr : x.run w with
  | ok a w₁ =>
    rw [hr] at hw
    exact hw
  | error e w₁ =>
    rw [hr] at hw
    exact hw.trans (hh e w₁)

theorem map {x : Act α} (f : α → β) (hx : Quiet x) : Quiet (f <$> x) := by
  rw [map_eq_pure_bind]
  exact hx.bind fun a => pure (f a)

end Quiet

theorem always_quiet {body : Act α} {last : Act Unit} (hb : Quiet body) (hl : Quiet last) :
    Quiet (always body last) := by
  unfold always
  refine (Quiet.tryCatch (hb.map _) fun e => Quiet.pure _).bind fun r => hl.bind fun _ => ?_
  cases r with
  | ok a => exact Quiet.pure a
  | error e => exact Quiet.throw e

theorem executePooled_quiet (sql : String) (params : List Json) :
    Quiet (executePooled sql params) := by
  unfold executePooled
  refine (Quiet.record rfl).bind fun _ => Quiet.get.bind fun w => ?_
  -- a failing database fails every statement but `SET`, after it is recorded
  split
  · split
    · exact Quiet.throw _
    · exact Quiet.pure _
  · exact Quiet.pure _

theorem ensureUtc_quiet : Quiet ensureUtc :=
  (executePooled_quiet _ _).bind fun _ => Quiet.record rfl

theorem acquire_quiet : Quiet acquire := by
  unfold acquire
  refine Quiet.get.bind fun w => ?_
  -- the pool makes its connection on first use, then the connection is taken
  dsimp only
  split
  · split
    · refine (Quiet.record rfl).bind fun _ => (Quiet.modify fun _ => ?_).bind fun _ => ?_
      · rfl
      split
      · exact ensureUtc_quiet.bind fun _ => Quiet.record rfl
      · exact Quiet.record rfl
    · exact Quiet.record rfl
  · exact Quiet.record rfl

theorem withPooledConnection_quiet {body : Act α} (hb : Quiet body) :
    Quiet (withPooledConnection body) :=
  acquire_quiet.bind fun _ => always_quiet (ensureUtc_quiet.bind fun _ => hb) (Quiet.record rfl)

theorem fetchScalarInt_quiet (sql : String) (params : List Json) :
    Quiet (fetchScalarInt sql params) := by
  unfold fetchScalarInt
  refine (executePooled_quiet _ _).bind fun _ => Quiet.get.bind fun w => ?_
  dsimp only
  split
  · exact Quiet.pure _
  · split
    · exact Quiet.pure _
    · exact Quiet.throw _

theorem always_map (body : Act α) (last : Act Unit) (f : α → β) :
    always (body >>= fun a => pure (f a)) last = always body last >>= fun a => pure (f a) := by
  funext w
  show (always _ last).run w = (always body last >>= _).run w
  unfold always
  simp only [EStateM.run_bind, run_tryCatch, map_eq_pure_bind]
  cases body.run w with
  | ok a w₁ =>
    simp only [EStateM.run_pure]
    cases last.run w₁ <;> rfl
  | error e w₁ =>
    simp only [EStateM.run_pure]
    cases last.run w₁ <;> rfl

-- what the body's value is used for can be done after the connection is given back
theorem withPooledConnection_map (body : Act α) (f : α → β) :
    withPooledConnection (body >>= fun a => pure (f a)) =
      withPooledConnection body >>= fun a => pure (f a) := by
  unfold withPooledConnection
  rw [bind_assoc]
  congr 1
  funext u
  rw [← always_map, bind_assoc]

end Service

namespace Bot

open Service Text

def IsIntegerText (s : String) : Prop :=
  ∃ neg : Bool, ∃ ds : List Char, ds ≠ [] ∧ (∀ d ∈ ds, d.isDigit = true) ∧
    s.toList = (if neg then ['-'] else []) ++ ds

theorem isBlank_of_isDigit {c : Char} (h : c.isDigit = true) : isBlank c = false := by
  have hc : 48 ≤ c.toNat ∧ c.toNat ≤ 57 := Char.isDigit_iff_toNat.1 h
  -- the digits lie between the blank ranges ending at 32 and starting at 133
  simp only [isBlank, inRanges, blankRanges, List.any_cons, List.any_nil, Bool.or_false,
    Bool.or_eq_false_iff, Bool.and_eq_false_imp, decide_eq_true_eq, decide_eq_false_iff_not,
    Nat.not_le]
  omega

theorem isDecimal_of_isDigit {c : Char} (h : c.isDigit = true) : isDecimal c = true := by
  have hle : '0' ≤ c ∧ c ≤ '9' := by
    simpa only [Char.isDigit, Bool.and_eq_true, decide_eq_true_eq, Char.le_def] using h
  simp [isDecimal, decimalValue?, hle]

theorem dropWhile_of_none {p : Char → Bool} {cs : List Char} (h : ∀ c ∈ cs, p c = false) :
    cs.dropWhile p = cs := by
  cases cs with
  | nil => rfl
  | cons c cs => simp [h c (by simp)]

theorem trim_of_no_blank {cs : List Char} (h : ∀ c ∈ cs, isBlank c = false) : trim cs = cs := by
  have hr : ∀ c ∈ cs.reverse, isBlank c = false := fun c hc => h c (List.mem_reverse.1 hc)
  simp only [trim, dropWhile_of_none h, dropWhile_of_none hr, List.reverse_reverse]

theorem isIntegerText_of_digits {neg : Bool} {ds : List Char} (hne : ds ≠ [])
    (hd : ∀ d ∈ ds, d.isDigit = true) :
    isIntegerText ((if neg then ['-'] else []) ++ ds) = true := by
  have hdec : ds.all isDecimal = true :=
    List.all_eq_true.2 fun d h => isDecimal_of_isDigit (hd d h)
  cases neg with
  | true => simp [isIntegerText, hne, hdec]
  | false =>
    -- without a sign the first digit is not a minus, so the second arm reads the text
    unfold isIntegerText
    split
    · rename_i rest heq
      have hminus := hd '-' (by simp at heq; simp [heq])
      exact absurd hminus (by decide)
    · simp [hne, hdec]

theorem sanitize_of_isIntegerText {s : String} (h : IsIntegerText s) : sanitize s = s := by
  obtain ⟨neg, ds, hne, hd, hs⟩ := h
  have hblank : ∀ c ∈ s.toList, isBlank c = false := by
    rw [hs]
    intro c hc
    rcases List.mem_append.1 hc with hc | hc
    · -- the only character before the digits is the sign
      cases neg with
      | false => simp at hc
      | true =>
        obtain rfl : c = '-' := by simpa using hc
        decide
    · exact isBlank_of_isDigit (hd c hc)
  have htrim : trim s.toList = s.toList := trim_of_no_blank hblank
  have hint : isIntegerText s.toList = true := hs ▸ isIntegerText_of_digits hne hd
  unfold sanitize
  rw [htrim]
  dsimp only
  rw [hint, if_pos rfl, String.ofList_toList]

theorem isIntegerText_toString (v : Int) : IsIntegerText (toString v) := by
  have digits (n : Nat) : n.repr.toList ≠ [] ∧ ∀ d ∈ n.repr.toList, d.isDigit = true := by
    rw [Nat.toList_repr]
    exact ⟨Nat.toDigits_ne_nil, fun d hd => Nat.isDigit_of_mem_toDigits (by decide) (by decide) hd⟩
  cases v with
  | ofNat n => exact ⟨false, _, (digits n).1, (digits n).2, by simp [Int.repr]⟩
  | negSucc n => exact ⟨true, _, (digits (n + 1)).1, (digits (n + 1)).2, by simp [Int.repr]⟩

theorem isIntegerText_zero : IsIntegerText "0" :=
  ⟨false, ['0'], by simp, List.forall_mem_singleton.2 rfl, rfl⟩

/-- How the answer to a question comes about when the handler starts in `w`. -/
inductive Answers (dates : DateText.Parser) (settings : Config.Settings) (now : Moment)
    (question : String) (w : World) :
    String → Prop
  | notUnderstood {e : Question.UnderstandError} :
      Question.understand dates now (assistantFor settings w) question = .error e →
      Answers dates settings now question w "0"
  | notBuilt {s : Question.Source} {u : Question.Understanding} :
      Question.understand dates now (assistantFor settings w) question = .ok (s, u) →
      (∀ q, u.intent?.map Query.build ≠ some (.ok q)) →
      Answers dates settings now question w "0"
  | notFetched {s : Question.Source} {u : Question.Understanding} {q : Query} {e : Fault}
      {w' : World} :
      Question.understand dates now (assistantFor settings w) question = .ok (s, u) →
      u.intent?.map Query.build = some (.ok q) →
      (withPooledConnection (fetchScalarInt q.sql (q.params.map Query.Param.toJson))).run w =
        .error e w' →
      Answers dates settings now question w "0"
  | fetched {s : Question.Source} {u : Question.Understanding} {q : Query} {n : Int}
      {w' : World} :
      Question.understand dates now (assistantFor settings w) question = .ok (s, u) →
      u.intent?.map Query.build = some (.ok q) →
      (withPooledConnection (fetchScalarInt q.sql (q.params.map Query.Param.toJson))).run w =
        .ok n w' →
      Answers dates settings now question w (toString n)

theorem Answers.isIntegerText {dates : DateText.Parser} {settings : Config.Settings} {now : Moment}
    {question : String} {w : World} {a : String} (h : Answers dates settings now question w a) :
    IsIntegerText a := by
  cases h with
  | fetched => exact isIntegerText_toString _
  | _ => exact isIntegerText_zero

theorem computeAnswer_answers (dates : DateText.Parser) (settings : Config.Settings) (now : Moment)
    (question : String) (w : World) :
    ∃ a w', (computeAnswer dates settings now question).run w = .ok a w' ∧ Extends w w' ∧
      Answers dates settings now question w a := by
  unfold computeAnswer
  simp only [EStateM.run_bind, EStateM.run_get]
  split
  · rename_i e hu
    exact ⟨_, _, rfl, Extends.refl w, .notUnderstood hu⟩
  · rename_i s u hu
    split
    · rename_i q hb
      -- the text of the value is made after the pooled fetch, so the fetch decides the answer
      rw [withPooledConnection_map, run_tryCatch, EStateM.run_bind]
      have hquiet := withPooledConnection_quiet
        (fetchScalarInt_quiet q.sql (q.params.map Query.Param.toJson)) w
      cases hr : (withPooledConnection
          (fetchScalarInt q.sql (q.params.map Query.Param.toJson))).run w with
      | ok n w' =>
        rw [hr] at hquiet
        exact ⟨_, _, rfl, hquiet, .fetched hu hb hr⟩
      | error e w' =>
        rw [hr] at hquiet
        exact ⟨_, _, rfl, hquiet, .notFetched hu hb hr⟩
    · rename_i hb
      exact ⟨_, _, rfl, Extends.refl w, .notBuilt hu hb⟩

theorem run_reply {x : Act String} {w w₁ : World} {a : String} (hx : x.run w = .ok a w₁) :
    (x >>= fun a => record (.reply (sanitize a))).run w =
      .ok () { w₁ with calls := w₁.calls ++ [.reply (sanitize a)] } := by
  rw [EStateM.run_bind, hx]
  rfl

theorem handleMessage_replies_once (dates : DateText.Parser) (settings : Config.Settings)
    (now : Moment) (m : Message) (w : World) :
    ∃ r w' mid, (handleMessage dates settings now m).run w = .ok () w' ∧
      w'.calls = w.calls ++ mid ++ [.reply r] ∧ (∀ c ∈ mid, c.isReply = false) ∧
      IsIntegerText r ∧
      (trim m.question.toList = [] ∨ isCommand m.question = true → r = "0" ∧ mid = []) ∧
      (trim m.question.toList ≠ [] → isCommand m.question = false →
        Answers dates settings now m.question w r) := by
  unfold handleMessage
  dsimp only
  split
  · rename_i hblank
    have hnil : trim m.question.toList = [] := List.isEmpty_iff.1 hblank
    rw [run_reply (x := pure "0") rfl, sanitize_of_isIntegerText isIntegerText_zero]
    exact ⟨"0", _, [], rfl, by simp, by simp, isIntegerText_zero, fun _ => ⟨rfl, rfl⟩,
      fun h => absurd hnil h⟩
  · rename_i hblank
    split
    · rename_i hcmd
      rw [run_reply (x := pure "0") rfl, sanitize_of_isIntegerText isIntegerText_zero]
      exact ⟨"0", _, [], rfl, by simp, by simp, isIntegerText_zero, fun _ => ⟨rfl, rfl⟩,
        fun _ h => absurd hcmd (by simp [h])⟩
    · rename_i hcmd
      -- the question goes through its stages; only the reply is recorded after them
      obtain ⟨a, w₁, hrun, ⟨mid, hmid, hcalls⟩, hans⟩ :=
        computeAnswer_answers dates settings now m.question w
      rw [run_reply hrun, sanitize_of_isIntegerText hans.isIntegerText]
      refine ⟨a, _, mid, rfl, by simp [hcalls], hmid, hans.isIntegerText, ?_, fun _ _ => hans⟩
      rintro (h | h)
      · exact absurd (List.isEmpty_iff.2 h) hblank
      · exact absurd h hcmd

end Bot

end VideoStats
