import DustDevil.Client.LogBlock
import DustDevil.Lib.Steps
import DustDevil.Proofs.LongListMap
import DustDevil.Proofs.TextWrapper

/-!
# What the log shows

The client shows of an event what the server logs of it (`lineText_logEventToSingleLine`), in lines
that it breaks where they are too long. After any run the log has the last of the events that were
streamed, and it draws lines of theirs (`shows_history`).
-/

namespace DustDevil

open Wire
open Display (fmt)

/-! ## The text of a line -/

section Text

/-- The characters of a line. -/
def lineText {Style : Type} (line : Line Style) : Str := line.flatMap fun span => span.1.toStr

variable {Style : Type}

@[simp] theorem lineText_nil : lineText ([] : Line Style) = [] := rfl

@[simp] theorem lineText_cons (span : StaticString × Style) (line : Line Style) :
    lineText (span :: line) = span.1.toStr ++ lineText line := rfl

@[simp] theorem lineText_append (xs ys : Line Style) :
    lineText (xs ++ ys) = lineText xs ++ lineText ys := List.flatMap_append

theorem map_fst_styledChars (line : Line Style) :
    (styledChars line).map Prod.fst = lineText line := by
  induction line with
  | nil => rfl
  | cons span line ih =>
    obtain ⟨text, style⟩ := span
    rw [styledChars_cons, List.map_append, ih, lineText_cons, List.map_map]
    simp [Function.comp_def]

@[simp] theorem toStr_text (s : String) (style : LogStyle) :
    (text s style).1.toStr = s.toList := rfl

@[simp] theorem toStr_staticText (s : Str) (style : LogStyle) :
    (staticText s style).1.toStr = s := rfl

@[simp] theorem toStr_formatted (s : Str) (style : LogStyle) :
    (formatted s style).1.toStr = s := rfl

@[simp] theorem fmt_str (s : Str) : fmt s = s := rfl

@[simp] theorem fmt_userRole (role : UserRole) : fmt role = role.toStr := rfl

@[simp] theorem fmt_authMethod (authMethod : AuthMethod) : fmt authMethod = authMethod.toStr := rfl

theorem lineText_eventSpans (data : EventData) :
    lineText (eventSpans data) = ' ' :: data.toText := by
  delta eventSpans EventData.toText
  cases data
  case' usersLoadedFromFile filename result => cases result
  case' usersSavedToFile filename result => cases result
  case' clientConnectionAcceptFailed address e => cases address
  case' sandstormConnectionAcceptFailed address e => cases address
  case' clientAuthenticatedWithUserpass clientId username success => cases success
  case' sandstormAuthenticatedAs managerId username success => cases success
  case' clientSocksRequest clientId request =>
    obtain ⟨destination, port⟩ := request
    cases destination
  case' clientConnectionFinished clientId bytesSent bytesReceived result => cases result
  case' sandstormConnectionFinished managerId result => cases result
  case' userUpdatedByManager managerId username role hasNewPassword => cases hasNewPassword
  case' authMethodToggledByManager managerId authMethod enabled => cases enabled
  all_goals
    simp only [lineText_cons, lineText_nil, lineText_append, toStr_text, toStr_staticText,
      toStr_formatted, if_true, Bool.false_eq_true, if_false]
    -- A literal is its characters, which is checked at once, unlike what `toList` makes of it.
    repeat rw [String.toList_ofList]
    simp

/-- The client shows of an event what the server logs of it. -/
theorem lineText_logEventToSingleLine (localDateTime : LocalDateTime) (event : Event) :
    lineText (logEventToSingleLine localDateTime event) = event.line localDateTime := by
  rw [logEventToSingleLine, lineText_cons, lineText_eventSpans]
  rfl

end Text

/-! ## The lines of an event -/

section Lines

theorem IsGap.map {Style Style' : Type} {gap : List (Char × Style)} (g : Style → Style')
    (h : IsGap gap) : IsGap (gap.map (Prod.map id g)) := by
  refine ⟨fun x hx => ?_, fun x hx y hy => ?_⟩
  · obtain ⟨x, hmem, rfl⟩ := List.mem_map.1 hx
    exact h.1 x hmem
  · obtain ⟨x, hmem, rfl⟩ := List.mem_map.1 hx
    obtain ⟨y, hmem', rfl⟩ := List.mem_map.1 hy
    exact congrArg g (h.2 x hmem y hmem')

theorem BrokenBy.map {Style Style' : Type} {lines : List (List (Char × Style))}
    {text : List (Char × Style)} (g : Style → Style') (h : BrokenBy lines text) :
    BrokenBy (lines.map (List.map (Prod.map id g))) (text.map (Prod.map id g)) := by
  induction h with
  | none => exact .none
  | last line => exact .last _
  | cons line h hgap hlines ih =>
    rw [List.map_cons, List.map_append, List.map_append]
    exact ih.cons _ (hgap.map g) (by simpa using hlines)

/-- The lines are a text, which has lost white space where it is broken. -/
def Breaks (lines : List Str) (text : Str) : Prop :=
  BrokenBy (lines.map (List.map (·, ()))) (text.map (·, ()))

theorem breaks_of_brokenBy {Style : Type} {lines : List (Line Style)} {spans : Line Style}
    (h : BrokenBy (lines.map styledChars) (styledChars spans)) :
    Breaks (lines.map lineText) (lineText spans) := by
  have hunstyled : ∀ line : Line Style, (styledChars line).map (Prod.map id fun _ => ())
      = (lineText line).map (·, ()) := fun line => by
    rw [← map_fst_styledChars, List.map_map]
    rfl
  have hmap := h.map fun _ => ()
  rw [List.map_map, hunstyled] at hmap
  rw [Breaks, List.map_map]
  exact (List.map_congr_left fun line _ => hunstyled line) ▸ hmap

variable (localDateTime : LocalDateTime) (wrapWidth : ℕ) (event : Event)

/-- The text of the lines that an event is shown in. -/
def eventLines : List Str :=
  ((logLines localDateTime wrapWidth event).toOption.getD []).map lineText

theorem length_styledChars {Style : Type} (spans : Line Style) :
    (styledChars spans).length = (spans.flatMap fun span => span.1.toStr).length := by
  rw [styledChars, List.length_flatMap, List.length_flatMap]
  simp

theorem logLines_ok :
    ∃ lines, logLines localDateTime wrapWidth event = .ok lines
      ∧ (∀ line ∈ lines.map lineText, line.length ≤ max wrapWidth logLineMinLength)
      ∧ Breaks (lines.map lineText) (event.line localDateTime) := by
  have hwidth : 0 < max wrapWidth logLineMinLength := lt_max_of_lt_right (by decide)
  obtain ⟨lines, hlines, hwide, hbroken, -⟩ :=
    wrapLoop_breaks (ε := Empty) hwidth _ [] 0 (.new (logEventToSingleLine localDateTime event))
      hwidth le_rfl (by
        rw [length_styledChars]
        exact Nat.lt_succ_self _)
  refine ⟨lines, hlines, fun line hline => ?_, ?_⟩
  · obtain ⟨line, hmem, rfl⟩ := List.mem_map.1 hline
    rw [← map_fst_styledChars, List.length_map]
    exact hwide line hmem
  · rw [← lineText_logEventToSingleLine]
    exact breaks_of_brokenBy hbroken

theorem length_eventLines_le :
    ∀ line ∈ eventLines localDateTime wrapWidth event,
      line.length ≤ max wrapWidth logLineMinLength := by
  obtain ⟨lines, hlines, hwide, -⟩ := logLines_ok localDateTime wrapWidth event
  rw [eventLines, hlines]
  exact hwide

theorem breaks_eventLines :
    Breaks (eventLines localDateTime wrapWidth event) (event.line localDateTime) := by
  obtain ⟨lines, hlines, -, hbreaks⟩ := logLines_ok localDateTime wrapWidth event
  rw [eventLines, hlines]
  exact hbreaks

theorem eventLines_ne_nil : eventLines localDateTime wrapWidth event ≠ [] := by
  intro hnil
  have hbreaks := breaks_eventLines localDateTime wrapWidth event
  rw [hnil] at hbreaks
  have htext : (event.line localDateTime).map (·, ()) ≠ [] := by
    simp [Event.line, DateTime.bracketed]
  rw [Breaks] at hbreaks
  generalize (event.line localDateTime).map (·, ()) = text at hbreaks htext
  cases hbreaks
  exact htext rfl

end Lines

/-! ## Runs -/

namespace LogBlock

variable {localDateTime : LocalDateTime} {search : KeySearch (Line LogStyle × ℕ)}
  {borders : BlockInner} {block block' : LogBlock}

/-- A call of the block. -/
inductive Call where
  | newStreamEvent (event : Event)
  | resize (area : Rect)
  | render (area : Rect)
  | handleEvent (event : TuiEvent) (isFocused : Bool)
  | receiveFocus
  | focusLost

/-- The block after a call that does not panic. -/
def step (search : KeySearch (Line LogStyle × ℕ)) (borders : BlockInner) (block : LogBlock) :
    Call → Option LogBlock
  | .newStreamEvent event => some (block.newStreamEvent event)
  | .resize area => some (block.resize area)
  | .render area => (block.render (ε := Empty) search borders area).toOption.map Prod.snd
  | .handleEvent event isFocused => some (block.handleEvent event isFocused).2
  | .receiveFocus => some block.receiveFocus.2
  | .focusLost => some block.focusLost

/-- A block is drawn in the area that it was last resized to. -/
def InPlace (block : LogBlock) : Call → Prop
  | .render area => area = block.list.currentArea
  | _ => True

/-- The event that a call adds to the history. -/
def Call.shown : Call → Option Event
  | .newStreamEvent event => if ignores event.data then none else some event
  | _ => none

theorem preserves_items (handler : LogListHandler) :
    LongList.Preserves handler.items lineText where
  selected _ line number := by
    have hspan : ∀ (bg : Option LogColor) (span : LogSpan), (withBackground bg span).1 = span.1 :=
      fun _ _ => rfl
    cases line with
    | nil => rfl
    | cons span spans =>
      simp only [LogListHandler.items, LogListHandler.modifyLineToSelected]
      split_ifs <;> simp [lineText, List.flatMap_map, hspan]
  unselected _ line _ := by
    simp [LogListHandler.items, LogListHandler.modifyLineToUnselected, lineText, List.flatMap_map,
      withBackground]

theorem getItemLines_items {handler : LogListHandler} {i : ℕ}
    (hi : i < handler.eventHistory.length) (width : ℕ) :
    (LongList.texts handler.items lineText).getItemLines i width
      = some (eventLines handler.localDateTime width handler.eventHistory[i]) := by
  obtain ⟨lines, hlines, -⟩ := logLines_ok handler.localDateTime width handler.eventHistory[i]
  simp [LongList.texts, LogListHandler.items, LogListHandler.getItemLines, hi, hlines, eventLines,
    Except.toOption]

theorem serves_items (handler : LogListHandler) :
    LongList.Serves (LongList.texts handler.items lineText) handler.eventHistory.length where
  gives width _ hi := ⟨_, getItemLines_items hi width, eventLines_ne_nil _ _ _⟩
  restores := LongList.restores_texts

/-- The history is the list's items, and what the list keeps is their text. -/
structure Shows (borders : BlockInner) (block : LogBlock) : Prop where
  itemCount : block.list.itemCount = block.handler.eventHistory.length
  legible : LongList.Legible lineText borders block.list block.handler.items

theorem shows_new : Shows borders (new localDateTime) where
  itemCount := rfl
  legible := LongList.coherent_new (serves_items _)

theorem getItemLines_congr {history history' : List Event} {i j : ℕ}
    (h : history'[i]? = history[j]?) (localDateTime : LocalDateTime) (width : ℕ) :
    (LongList.texts (LogListHandler.mk history' localDateTime).items lineText).getItemLines i width
      = (LongList.texts (LogListHandler.mk history localDateTime).items lineText).getItemLines j
        width := by
  simp only [LongList.texts, LogListHandler.items, LogListHandler.getItemLines, h]

theorem Shows.pushBack (h : Shows borders block) (event : Event) :
    Shows borders (block.pushBack event) := by
  set history := block.handler.eventHistory ++ [event]
  have hitems : LongList.ItemsAfter borders (block.list.map lineText)
      (LongList.texts block.handler.items lineText)
      (LongList.texts (block.pushBack event).handler.items lineText)
      (.setItemCount history.length) := by
    refine ⟨serves_items (block.pushBack event).handler, fun i hi width => ?_⟩
    have hlt : i < block.handler.eventHistory.length :=
      h.itemCount ▸ hi.trans_le (min_le_left _ _)
    exact getItemLines_congr (List.getElem?_append_left hlt) block.handler.localDateTime width
  have hlegible := h.legible.step hitems rfl
  rw [← LongList.map_setItemCount] at hlegible
  refine ⟨?_, hlegible⟩
  have hcount := (LongList.setItemCount_same h.legible.valid history.length).1
  rwa [← LongList.map_setItemCount] at hcount

theorem Shows.popFront (h : Shows borders block) (hne : block.handler.eventHistory ≠ []) :
    Shows borders block.popFront := by
  have hpos := List.length_pos_iff.2 hne
  have hcount : block.popFront.list.itemCount = block.popFront.handler.eventHistory.length := by
    have hlength := h.itemCount
    simp only [LogBlock.popFront, LongList.onItemRemoved, LongList.redrawNotify, List.length_tail]
    omega
  have hitems : LongList.ItemsAfter borders (block.list.map lineText)
      (LongList.texts block.handler.items lineText)
      (LongList.texts block.popFront.handler.items lineText) (.onItemRemoved 0) := by
    refine ⟨h.itemCount.symm ▸ hpos, ?_, fun i hi width => ?_⟩
    · have hserves := serves_items block.popFront.handler
      rwa [← hcount] at hserves
    · rw [if_neg (Nat.not_lt_zero i)]
      exact getItemLines_congr List.getElem?_tail block.handler.localDateTime width
  have hlegible := h.legible.step hitems rfl
  rw [← LongList.map_onItemRemoved] at hlegible
  exact ⟨hcount, hlegible⟩

theorem Shows.newStreamEvent (h : Shows borders block) (event : Event) :
    Shows borders (block.newStreamEvent event) := by
  unfold LogBlock.newStreamEvent
  split_ifs with hignores hfull
  · exact h
  · have hne : block.handler.eventHistory ≠ [] := by
      rintro hnil
      rw [hnil] at hfull
      exact absurd hfull (by decide)
    exact (h.popFront hne).pushBack event
  · exact h.pushBack event

theorem Shows.of_reselected (h : Shows borders block) {list : LongList (Line LogStyle)}
    (hlist : LongList.Reselected block.list list) : Shows borders { block with list := list } :=
  ⟨hlist.itemCount_eq.trans h.itemCount, h.legible.of_reselected hlist⟩

theorem Shows.step (h : Shows borders block) {call : Call} (hplace : InPlace block call)
    (hstep : step search borders block call = some block') : Shows borders block' := by
  have hvalid := LongList.valid_of_map h.legible.valid
  cases call with
  | newStreamEvent event =>
    obtain rfl := Option.some.inj hstep
    exact h.newStreamEvent event
  | resize area =>
    obtain rfl := Option.some.inj hstep
    have hitems : LongList.ItemsAfter borders (block.list.map lineText)
      (LongList.texts block.handler.items lineText) (LongList.texts block.handler.items lineText)
      (.resize area) := rfl
    have hlegible := h.legible.step hitems rfl
    rw [← LongList.map_resize] at hlegible
    have hcount : (block.list.resize area).itemCount = block.list.itemCount := by
      unfold LongList.resize
      split_ifs <;> rfl
    exact ⟨hcount.trans h.itemCount, hlegible⟩
  | render area =>
    obtain rfl : area = block.list.currentArea := hplace
    obtain ⟨⟨drawn, block''⟩, hrender, rfl⟩ := Option.map_eq_some_iff.1 hstep
    have hrender := LongList.eq_ok_of_toOption hrender
    rcases hlist : block.list.render (ε := Empty) block.handler.items search borders
      block.list.currentArea with stop | ⟨drawn', list'⟩
    · simp [LogBlock.render, hlist, bind, Except.bind] at hrender
    · simp only [LogBlock.render, hlist, bind, Except.bind, pure, Except.pure] at hrender
      obtain ⟨hlegible, hcount⟩ := h.legible.render (preserves_items _) hlist
      obtain rfl := congrArg Prod.snd (Except.ok.inj hrender)
      exact ⟨hcount.trans h.itemCount, hlegible⟩
  | handleEvent event isFocused =>
    obtain rfl := Option.some.inj hstep
    exact h.of_reselected (hvalid.handleEvent _ event isFocused)
  | receiveFocus =>
    obtain rfl := Option.some.inj hstep
    exact h.of_reselected hvalid.receiveFocus
  | focusLost =>
    obtain rfl := Option.some.inj hstep
    exact h.of_reselected hvalid.focusLost

/-! ### The history -/

theorem rtake_snoc_of_full {α : Type} {n : ℕ} {l : List α} (hn : n ≠ 0)
    (hfull : n ≤ (l.rtake n).length) (x : α) : (l.rtake n).tail ++ [x] = (l ++ [x]).rtake n := by
  obtain ⟨n, rfl⟩ := Nat.exists_eq_succ_of_ne_zero hn
  rw [List.rtake, List.length_drop] at hfull
  have htail : (l.rtake (n + 1)).tail = l.rtake n := by
    rw [List.rtake, List.tail_drop, List.rtake]
    congr 1
    omega
  rw [Nat.succ_eq_add_one, htail, List.rtake_concat_succ]

theorem rtake_snoc_of_room {α : Type} {n : ℕ} {l : List α} (hroom : ¬ n ≤ (l.rtake n).length)
    (x : α) : l.rtake n ++ [x] = (l ++ [x]).rtake n := by
  rw [List.rtake, List.length_drop] at hroom
  have hwhole : l.rtake n = l := by
    rw [List.rtake, Nat.sub_eq_zero_of_le (by omega), List.drop_zero]
  rw [hwhole, List.rtake, List.length_append, List.length_singleton,
    Nat.sub_eq_zero_of_le (by omega), List.drop_zero]

theorem newStreamEvent_handler {shown : List Event}
    (h : block.handler = ⟨shown.rtake maximumEventHistoryLength, localDateTime⟩) (event : Event) :
    (block.newStreamEvent event).handler
      = ⟨(shown ++ (Call.newStreamEvent event).shown.toList).rtake maximumEventHistoryLength,
        localDateTime⟩ := by
  have hpos : maximumEventHistoryLength ≠ 0 := by simp [maximumEventHistoryLength]
  unfold newStreamEvent
  split_ifs with hignores hfull
  · rw [Call.shown, if_pos hignores, Option.toList_none, List.append_nil, h]
  · simp only [h] at hfull
    rw [Call.shown, if_neg hignores, Option.toList_some, ← rtake_snoc_of_full hpos hfull]
    simp only [LogBlock.pushBack, LogBlock.popFront, h]
  · simp only [h] at hfull
    rw [Call.shown, if_neg hignores, Option.toList_some, ← rtake_snoc_of_room hfull]
    simp only [LogBlock.pushBack, h]

theorem step_handler {shown : List Event} {call : Call}
    (h : block.handler = ⟨shown.rtake maximumEventHistoryLength, localDateTime⟩)
    (hstep : step search borders block call = some block') :
    block'.handler
      = ⟨(shown ++ call.shown.toList).rtake maximumEventHistoryLength, localDateTime⟩ := by
  cases call with
  | newStreamEvent event =>
    obtain rfl := Option.some.inj hstep
    exact newStreamEvent_handler h event
  | render area =>
    obtain ⟨⟨drawn, block''⟩, hrender, rfl⟩ := Option.map_eq_some_iff.1 hstep
    have hrender := LongList.eq_ok_of_toOption hrender
    rcases hlist : block.list.render (ε := Empty) block.handler.items search borders area
      with stop | ⟨drawn', list'⟩
    · simp [LogBlock.render, hlist, bind, Except.bind] at hrender
    · simp only [LogBlock.render, hlist, bind, Except.bind, pure, Except.pure] at hrender
      obtain rfl := congrArg Prod.snd (Except.ok.inj hrender)
      simpa only [Call.shown, Option.toList_none, List.append_nil] using h
  | _ =>
    obtain rfl := Option.some.inj hstep
    simp only [Call.shown, Option.toList_none, List.append_nil]
    exact h

theorem handler_of_runSteps {calls : List Call} : ∀ {block : LogBlock} {shown : List Event},
    block.handler = ⟨shown.rtake maximumEventHistoryLength, localDateTime⟩ →
    runSteps (step search borders) block calls = some block' →
      block'.handler = ⟨(shown ++ calls.filterMap Call.shown).rtake maximumEventHistoryLength,
        localDateTime⟩ := by
  induction calls with
  | nil =>
    intro block shown h hrun
    obtain rfl := Option.some.inj hrun
    rwa [List.filterMap_nil, List.append_nil]
  | cons call calls ih =>
    intro block shown h hrun
    obtain ⟨block₁, hstep, hrest⟩ := runSteps_cons.1 hrun
    rw [ih (step_handler h hstep) hrest, List.append_assoc]
    cases hshown : call.shown <;> simp [hshown]

/-! ### What is drawn -/

theorem flatMap_linesOf (handler : LogListHandler) (width : ℕ) :
    ∀ i ≤ handler.eventHistory.length,
      (List.range i).flatMap (LongList.linesOf (LongList.texts handler.items lineText) width)
        = (handler.eventHistory.take i).flatMap (eventLines handler.localDateTime width)
  | 0, _ => by simp
  | i + 1, hi => by
    have hlines : LongList.linesOf (LongList.texts handler.items lineText) width i
        = eventLines handler.localDateTime width handler.eventHistory[i] := by
      rw [LongList.linesOf, getItemLines_items hi width, Option.getD_some]
    rw [List.range_succ, List.flatMap_append, flatMap_linesOf handler width i (by omega),
      List.take_add_one, List.flatMap_append, List.getElem?_eq_getElem hi, Option.toList_some,
      List.flatMap_singleton, List.flatMap_singleton, hlines]

theorem total_lineCount {Text : Type} (handler : LongListHandler Text) (width count : ℕ) :
    Extent.total (LongList.lineCount handler width) 0 count
      = ((List.range count).flatMap (LongList.linesOf handler width)).length := by
  rw [← LongList.map_fst_blocks, List.length_map, LongList.length_blocks_eq _ (Nat.zero_le _)]
  rfl

/-- After any calls a block has the last of the events that were streamed and tell of more than
bytes. What it draws is a run of their lines, with the first one of the selected event, or of the
last one where none is selected; and the lines of an event are those that the server logs, broken
where they are too long. -/
theorem shows_history {calls : List Call}
    (hplace : AlongRun (step search borders) InPlace (new localDateTime) calls)
    (hrun : runSteps (step search borders) (new localDateTime) calls = some block) :
    let history := (calls.filterMap Call.shown).rtake maximumEventHistoryLength
    let area := borders.inner block.list.currentArea
    let texts := List.flatMap (eventLines localDateTime area.width)
    let before := (texts (history.take block.list.centerItemIndex)).length
    block.handler.eventHistory = history ∧ block.list.itemCount = history.length
      ∧ (∀ drawn block', history ≠ [] → ¬ area.isEmpty →
        block.render (ε := Empty) search borders block.list.currentArea = .ok (drawn, block') →
        ∃ lines scrollbar start,
          drawn = LongList.drawnLines borders block.list.currentArea block.list.title lines
            ++ scrollbar
          ∧ (∀ d ∈ scrollbar, ∃ x y symbol, d = .cell x y symbol)
          ∧ start ≤ before ∧ before < start + area.height
          ∧ lines.map lineText = ((texts history).drop start).take area.height)
      ∧ ∀ event width, Breaks (eventLines localDateTime width event) (event.line localDateTime)
        ∧ ∀ line ∈ eventLines localDateTime width event,
          line.length ≤ max width logLineMinLength := by
  have hshows : Shows borders block := runSteps_keeps_along
    (fun _ _ _ h hplace hstep => h.step hplace hstep) shows_new hplace hrun
  have hnew : (new localDateTime).handler
      = ⟨([] : List Event).rtake maximumEventHistoryLength, localDateTime⟩ := rfl
  have hhandler : block.handler
      = ⟨(calls.filterMap Call.shown).rtake maximumEventHistoryLength, localDateTime⟩ := by
    rw [handler_of_runSteps hnew hrun, List.nil_append]
  have hhistory := congrArg LogListHandler.eventHistory hhandler
  have hdate := congrArg LogListHandler.localDateTime hhandler
  dsimp only at hhistory hdate ⊢
  refine ⟨hhistory, hhistory ▸ hshows.itemCount, fun drawn block' hne harea hrender => ?_,
    fun event width => ⟨breaks_eventLines localDateTime width event,
      length_eventLines_le localDateTime width event⟩⟩
  have hcount : block.list.itemCount ≠ 0 := by
    rw [hshows.itemCount, hhistory]
    exact (List.length_pos_iff.2 hne).ne'
  rcases hlist : block.list.render (ε := Empty) block.handler.items search borders
    block.list.currentArea with stop | ⟨drawn', list'⟩
  · simp [LogBlock.render, hlist, bind, Except.bind] at hrender
  simp only [LogBlock.render, hlist, bind, Except.bind, pure, Except.pure] at hrender
  obtain rfl := congrArg Prod.fst (Except.ok.inj hrender)
  obtain ⟨lines, scrollbar, start, hdrawn, hcells, hstart, hlt, htexts⟩ :=
    hshows.legible.render_window (preserves_items _) hcount harea hlist
  have hcenter : block.list.centerItemIndex ≤ block.handler.eventHistory.length := by
    rw [← hshows.itemCount]
    exact (LongList.centerItemIndex_lt hshows.legible.drawable.selected_lt hcount).le
  rw [total_lineCount, flatMap_linesOf _ _ _ hcenter, hhistory, hdate] at hstart hlt
  rw [flatMap_linesOf _ _ _ hshows.itemCount.le, hshows.itemCount, List.take_length, hhistory,
    hdate] at htexts
  exact ⟨lines, scrollbar, start, hdrawn, hcells, hstart, hlt, htexts⟩

def epoch : DateTime := ⟨1970, 1, 1, 0, 0, 0⟩

def shutdownEvent : Event := ⟨0, .shutdownSignalReceived⟩

def logArea : Rect := ⟨0, 0, 40, 10, by decide, by decide⟩

def socketEvent : Event := ⟨60, .newSocks5Socket (.v4 ⟨⟨0⟩, 1080⟩)⟩

/-- A log of two events that is drawn, and then has one more. -/
def drawnThenStreamed : List Call :=
  [.resize logArea, .newStreamEvent socketEvent, .newStreamEvent ⟨0, .clientBytesSent 1 2⟩,
    .newStreamEvent socketEvent, .render logArea, .newStreamEvent shutdownEvent]

theorem shows_history_shutdown :
    ∃ block drawn block', runSteps (step (.first _) .bordered) (new fun _ => epoch)
        drawnThenStreamed = some block
      ∧ block.handler.eventHistory = [socketEvent, socketEvent, shutdownEvent]
      ∧ block.list.itemCount = 3
      ∧ block.render (ε := Empty) (.first _) .bordered logArea = .ok (drawn, block')
      ∧ ∃ lines scrollbar start,
        drawn = LongList.drawnLines .bordered logArea block.list.title lines ++ scrollbar
          ∧ lines.map lineText = (([socketEvent, socketEvent, shutdownEvent].flatMap
            (eventLines (fun _ => epoch) 38)).drop start).take 8 := by
  have hplace : AlongRun (step (.first _) .bordered) InPlace (new fun _ => epoch)
      drawnThenStreamed :=
    .cons trivial rfl <| .cons trivial rfl <| .cons trivial rfl <| .cons trivial rfl <|
      ⟨rfl, fun _ _ => ⟨trivial, fun _ _ => trivial⟩⟩
  have hruns : ((runSteps (step (.first _) .bordered) (new fun _ => epoch)
      drawnThenStreamed).bind fun block => (block.render (ε := Empty) (.first _) .bordered
        block.list.currentArea).toOption).isSome = true := by decide +kernel
  have hareas : (runSteps (step (.first _) .bordered) (new fun _ => epoch)
      drawnThenStreamed).map (fun block => block.list.currentArea) = some logArea := by
    decide +kernel
  obtain ⟨⟨drawn, block'⟩, hruns⟩ := Option.isSome_iff_exists.1 hruns
  obtain ⟨block, hrun, hrender⟩ := Option.bind_eq_some_iff.1 hruns
  have hrender := LongList.eq_ok_of_toOption hrender
  have harea : block.list.currentArea = logArea := by simpa [hrun] using hareas
  obtain ⟨hhistory, hcount, hdraws, -⟩ := shows_history hplace hrun
  obtain ⟨lines, scrollbar, start, hdrawn, -, -, -, hlines⟩ :=
    hdraws drawn block' (by decide) (harea ▸ by decide) hrender
  rw [harea] at hrender hdrawn hlines
  exact ⟨block, drawn, block', hrun, hhistory, hcount, hrender, lines, scrollbar, start, hdrawn,
    hlines⟩
end LogBlock

end DustDevil
