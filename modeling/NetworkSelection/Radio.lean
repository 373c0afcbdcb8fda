/-!
# Radio measurements

Frequencies are in MHz.  A center frequency falls in one of four bands or in
none of them; a channel has one of six widths.
-/

namespace NetworkSelection

/-! ## Channel widths -/

/-- The operating width of a channel. -/
inductive ChannelWidth where
  | mhz20
  | mhz40
  | mhz80
  | mhz160
  | mhz80Plus80
  | mhz320
  deriving DecidableEq

namespace ChannelWidth

/-- The width assumed where none is reported. -/
instance : Inhabited ChannelWidth := ⟨mhz20⟩

/-- Every width. -/
def all : List ChannelWidth :=
  [mhz20, mhz40, mhz80, mhz160, mhz80Plus80, mhz320]

/-- The code used in data. -/
def code : ChannelWidth → String
  | mhz20 => "mhz20"
  | mhz40 => "mhz40"
  | mhz80 => "mhz80"
  | mhz160 => "mhz160"
  | mhz80Plus80 => "mhz80_plus80"
  | mhz320 => "mhz320"

/-- The width that a code stands for. -/
def ofCode? (code : String) : Option ChannelWidth :=
  all.find? fun w => w.code = code

/-- A code reads back. -/
theorem ofCode?_code (w : ChannelWidth) : ofCode? w.code = some w := by
  cases w <;> decide

/-- The label shown to people. -/
def label : ChannelWidth → String
  | mhz20 => "20MHz"
  | mhz40 => "40MHz"
  | mhz80 => "80MHz"
  | mhz160 => "160MHz"
  | mhz80Plus80 => "80+80MHz"
  | mhz320 => "320MHz"

instance : ToString ChannelWidth := ⟨label⟩

end ChannelWidth

/-! ## Bands -/

/-- The band a center frequency falls in.  All frequencies outside the four bands
count as one band of their own. -/
inductive Band where
  | ghz2_4
  | ghz5
  | ghz6
  | ghz60
  | unknown
  deriving DecidableEq

namespace Band

/-- Every band, in sort order. -/
def all : List Band :=
  [ghz2_4, ghz5, ghz6, ghz60, unknown]

/-- Every band is listed. -/
theorem mem_all (b : Band) : b ∈ all := by
  cases b <;> decide

/-- The place in the sort order. -/
def rank (b : Band) : Nat := b.ctorIdx

/-- The band of a center frequency; the limits of a band belong to it. -/
def ofFrequency (mhz : UInt32) : Band :=
  if 2400 ≤ mhz ∧ mhz ≤ 2500 then ghz2_4
  else if 4900 ≤ mhz ∧ mhz ≤ 5900 then ghz5
  else if 5925 ≤ mhz ∧ mhz ≤ 7125 then ghz6
  else if 58320 ≤ mhz ∧ mhz ≤ 70200 then ghz60
  else unknown

/-- The short name of a band. -/
def shortName : Band → String
  | ghz2_4 => "Ghz2_4"
  | ghz5 => "Ghz5"
  | ghz6 => "Ghz6"
  | ghz60 => "Ghz60"
  | unknown => "Unknown"

end Band

end NetworkSelection
