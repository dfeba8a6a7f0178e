import SlideDeck.Proofs.Reader.Runs

/-!
# What reading leaves alone

Reading adds at the ends of what is there, and nowhere else. The closed slides stay as they are and
where they are; slides that are closed later come behind them. The open slide keeps its sections, in
their order: all but the last one are out of reach, and that one may get a place, a size, colors and
more text, but stays the text or the figure that it is (`Section.Keeps`). New sections come after it
(`Slide.Continues`). When the slide is closed, it is the first to come behind those that were closed
already.

**The law** (`read_grows`): this holds of any draft and any tokens, and also where reading fails. Each
step keeps to it (`Step.grows`), and so does the import that closes the open slide before it fails.
-/

namespace SlideDeck

/-- A section that is still what it was: a text with the old text in front, or a figure of the same
file. -/
def Section.Keeps (last last' : Section) : Prop :=
  match last.body, last'.body with
  | .text b, .text b' => ∃ more, b'.text = b.text ++ more
  | .figure b, .figure b' => b'.path = b.path
  | _, _ => False

/-- A slide with the sections of another one first. All but the last of these are unchanged, and the
last one is what it was. -/
def Slide.Continues (o o' : Slide) : Prop :=
  ∀ before last, o.sections = before ++ [last] →
    ∃ last' further, o'.sections = before ++ last' :: further ∧ last.Keeps last'

/-- A draft that has come out of another one by additions at its ends. -/
structure Draft.Grows (d d' : Draft) : Prop where
  closed : d.slideshow.slides <+: d'.slideshow.slides
  /-- The open slide is still open, and none has been closed, or it is the one that was closed first. -/
  opened : ∀ o, d.slide = some o →
    (∃ o', d'.slide = some o' ∧ o.Continues o' ∧ d'.slideshow.slides = d.slideshow.slides) ∨
      ∃ o', d'.slideshow.slides[d.slideshow.slides.length]? = some o' ∧ o.Continues o'

/-! ## Sections -/

namespace Section.Keeps

theorem refl (s : Section) : s.Keeps s := by
  obtain ⟨size, position, body⟩ := s
  cases body with
  | text b => exact ⟨"", by simp⟩
  | figure b => exact rfl

theorem trans {a b c : Section} (ab : a.Keeps b) (bc : b.Keeps c) : a.Keeps c := by
  obtain ⟨_, _, aBody⟩ := a
  obtain ⟨_, _, bBody⟩ := b
  obtain ⟨_, _, cBody⟩ := c
  cases aBody with
  | text a =>
    cases bBody with
    | figure b => exact ab.elim
    | text b =>
      cases cBody with
      | figure c => exact bc.elim
      | text c =>
        obtain ⟨more, hb⟩ := ab
        obtain ⟨yet, hc⟩ := bc
        exact ⟨more ++ yet, by rw [hc, hb, String.append_assoc]⟩
  | figure a =>
    cases bBody with
    | text b => exact ab.elim
    | figure b =>
      cases cBody with
      | text c => exact bc.elim
      | figure c => exact Eq.trans bc ab

/-- What a directive or a line makes of a section is still what it was. -/
theorem of_amends {l : Lexeme} {last last' : Section} (h : Section.Amends l last last') :
    last.Keeps last' := by
  cases h with
  | position | size => exact refl last
  | rotation shows => simp only [Keeps, shows]
  | fontColor shows =>
    simp only [Keeps, shows]
    exact ⟨"", String.append_empty.symm⟩
  | line shows line =>
    simp only [Keeps, shows]
    exact ⟨_, rfl⟩

end Section.Keeps

/-! ## Slides -/

namespace Slide.Continues

theorem refl (o : Slide) : o.Continues o :=
  fun _ last here => ⟨last, [], here, .refl last⟩

theorem trans {o o' o'' : Slide} (first : o.Continues o') (second : o'.Continues o'') :
    o.Continues o'' := by
  intro before last here
  obtain ⟨last', further, here', keeps⟩ := first before last here
  -- The last section of the slide in the middle is the old one, or one that came after it.
  rcases List.eq_nil_or_concat further with rfl | ⟨others, final, rfl⟩
  · obtain ⟨last'', more, here'', keeps'⟩ := second before last' here'
    exact ⟨last'', more, here'', keeps.trans keeps'⟩
  · obtain ⟨final', more, here'', -⟩ := second (before ++ last' :: others) final (by simpa using here')
    exact ⟨last', others ++ final' :: more, by simpa using here'', keeps⟩

/-- A new section comes after the others. -/
theorem push (o : Slide) (new : Section) : o.Continues { o with sections := o.sections ++ [new] } :=
  fun before last here => ⟨last, [new], by simp [here], .refl last⟩

/-- The last section is changed where it stands. -/
theorem amend {before : List Section} {last last' : Section} (keeps : last.Keeps last')
    (background background' : Option Color) :
    (⟨background, before ++ [last]⟩ : Slide).Continues ⟨background', before ++ [last']⟩ := by
  intro others final here
  obtain ⟨rfl, same⟩ := List.append_inj' here rfl
  exact ⟨last', [], rfl, List.singleton_inj.mp same ▸ keeps⟩

end Slide.Continues

/-! ## Drafts -/

namespace Draft

variable {around : Surroundings} {d d' d'' : Draft} {l : Lexeme}

namespace Grows

theorem refl (d : Draft) : d.Grows d :=
  ⟨List.prefix_refl _, fun o there => .inl ⟨o, there, .refl o, rfl⟩⟩

theorem trans (first : d.Grows d') (second : d'.Grows d'') : d.Grows d'' := by
  refine ⟨first.closed.trans second.closed, fun o there => ?_⟩
  rcases first.opened o there with ⟨o', there', continues, same⟩ | ⟨o', place, continues⟩
  · rcases second.opened o' there' with ⟨o'', there'', continues', same'⟩ | ⟨o'', place', continues'⟩
    · exact .inl ⟨o'', there'', continues.trans continues', same'.trans same⟩
    · exact .inr ⟨o'', same ▸ place', continues.trans continues'⟩
  · -- A slide that has been closed stays where it is.
    obtain ⟨later, slides⟩ := second.closed
    refine .inr ⟨o', ?_, continues⟩
    rw [← slides, List.getElem?_append_left (List.getElem?_eq_some_iff.mp place).1]
    exact place

/-- Nothing is closed, and the open slide is continued. -/
theorem of_open {open_ open' : Slide} (there : d.slide = some open_) (there' : d'.slide = some open')
    (continues : open_.Continues open') (same : d'.slideshow.slides = d.slideshow.slides) :
    d.Grows d' := by
  refine ⟨same ▸ List.prefix_refl _, fun o ho => ?_⟩
  obtain rfl : open_ = o := by simpa [there] using ho
  exact .inl ⟨open', there', continues, same⟩

/-- The open slide is closed, if there is one, and more slides may come behind it. -/
theorem of_take {more : List Slide} (slides : d'.slideshow.slides = d.take.slides ++ more) :
    d.Grows d' := by
  unfold take flush at slides
  cases there : d.slide with
  | none =>
    rw [there] at slides
    exact ⟨⟨more, slides.symm⟩, fun o ho => nomatch there.symm.trans ho⟩
  | some open_ =>
    simp only [there, List.append_assoc] at slides
    refine ⟨⟨open_ :: more, slides.symm⟩, fun o ho => .inr ⟨open_, ?_, ?_⟩⟩
    · simp [slides]
    · obtain rfl : open_ = o := by simpa [there] using ho
      exact .refl open_

theorem flush (d : Draft) : d.Grows d.flush :=
  of_take (List.append_nil _).symm

end Grows

/-- **A step adds at the ends.** -/
theorem Step.grows (h : Step around l d d') : d.Grows d' := by
  cases h with
  | comment | blank => exact .refl _
  | defaults => exact ⟨List.prefix_refl _, fun o there => .inl ⟨o, there, .refl o, rfl⟩⟩
  | slide => exact .of_take (List.append_nil _).symm
  | text there => exact .of_open there rfl (.push _ _) rfl
  | figure there resolved => exact .of_open there rfl (.push _ _) rfl
  | default inside sets =>
    -- A default is no slide.
    cases sets <;> exact ⟨List.prefix_refl _, fun o there => .inl ⟨o, there, .refl o, rfl⟩⟩
  | @background _ open_ inside there color =>
    exact .of_open there rfl (fun _ last here => ⟨last, [], here, .refl last⟩) rfl
  | amend inside amends => exact .of_open rfl rfl (.amend (.of_amends amends) _ _) rfl
  | importDeck read => exact .of_take rfl

/-- A lexeme that fails adds nothing, or closes the open slide. -/
theorem grows_of_apply_error {window : List Lexeme} {failure : Failure}
    (h : apply around d l window = (d', .error failure)) : d.Grows d' := by
  rcases eq_of_apply_error h with ⟨_, rfl⟩ | ⟨_, rfl⟩
  · exact .flush _
  · exact .refl _

/-! ## The law -/

/-- **Reading adds at the ends of what is there**, also where it fails: the closed slides come first
and are unchanged, and the open one is continued, whether it is still open or has been closed behind
them. -/
theorem read_grows (around : Surroundings) (d : Draft) (tokens : List Token) :
    d.Grows (read around d tokens).1 := by
  obtain ⟨d', run, ends⟩ := run_of_readFrom around tokens 0 d
  have reached : d.Grows d' :=
    run.preserves (fun _ _ _ _ step grown => grown.trans step.grows) (.refl d)
  unfold read
  generalize readFrom around 0 d tokens = outcome, unreadFrom around 0 d tokens = left at ends
  cases ends with
  | read => exact reached
  | failed mem fails => exact reached.trans (grows_of_apply_error fails)

end Draft

end SlideDeck
