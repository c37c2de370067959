import LevelFormat.Wire.Enumeration

/-!
The settings that objects choose from.

Every setting is stored as one byte; the codes count up from zero in the order of the
constructors, and the first one is the default.
-/

namespace LevelFormat.Object

open LevelFormat.Wire (Enumeration)

inductive ZLayer where
  | default | b4 | b3 | b2 | b1 | t1 | t2 | t3
  deriving DecidableEq, Inhabited

def ZLayer.name : ZLayer → String
  | default => "Default"
  | b4 => "B4"
  | b3 => "B3"
  | b2 => "B2"
  | b1 => "B1"
  | t1 => "T1"
  | t2 => "T2"
  | t3 => "T3"

instance : Enumeration ZLayer where
  title := "ZLayer"
  all := [.default, .b4, .b3, .b2, .b1, .t1, .t2, .t3]
  name := ZLayer.name
  mem_all := by intro value; cases value <;> decide
  nodup_all := by decide
  length_all_le := by decide

inductive Easing where
  | none | easeInOut | easeIn | easeOut | elasticInOut | elasticIn | elasticOut | bounceInOut
  | bounceIn | bounceOut | exponentialInOut | exponentialIn | exponentialOut | sineInOut | sineIn
  | sineOut | backInOut | backIn | backOut
  deriving DecidableEq, Inhabited

def Easing.name : Easing → String
  | none => "None"
  | easeInOut => "EaseInOut"
  | easeIn => "EaseIn"
  | easeOut => "EaseOut"
  | elasticInOut => "ElasticInOut"
  | elasticIn => "ElasticIn"
  | elasticOut => "ElasticOut"
  | bounceInOut => "BounceInOut"
  | bounceIn => "BounceIn"
  | bounceOut => "BounceOut"
  | exponentialInOut => "ExponentialInOut"
  | exponentialIn => "ExponentialIn"
  | exponentialOut => "ExponentialOut"
  | sineInOut => "SineInOut"
  | sineIn => "SineIn"
  | sineOut => "SineOut"
  | backInOut => "BackInOut"
  | backIn => "BackIn"
  | backOut => "BackOut"

instance : Enumeration Easing where
  title := "Easing"
  all := [.none, .easeInOut, .easeIn, .easeOut, .elasticInOut, .elasticIn, .elasticOut,
    .bounceInOut, .bounceIn, .bounceOut, .exponentialInOut, .exponentialIn, .exponentialOut,
    .sineInOut, .sineIn, .sineOut, .backInOut, .backIn, .backOut]
  name := Easing.name
  mem_all := by intro value; cases value <;> decide
  nodup_all := by decide
  length_all_le := by decide

inductive PlayerColor where
  | notPlayer | player1 | player2
  deriving DecidableEq, Inhabited

def PlayerColor.name : PlayerColor → String
  | notPlayer => "NotPlayer"
  | player1 => "Player1"
  | player2 => "Player2"

instance : Enumeration PlayerColor where
  title := "PlayerColor"
  all := [.notPlayer, .player1, .player2]
  name := PlayerColor.name
  mem_all := by intro value; cases value <;> decide
  nodup_all := by decide
  length_all_le := by decide

inductive PulseTargetType where
  | colorChannel | group
  deriving DecidableEq, Inhabited

def PulseTargetType.name : PulseTargetType → String
  | colorChannel => "ColorChannel"
  | group => "Group"

instance : Enumeration PulseTargetType where
  title := "PulseTargetType"
  all := [.colorChannel, .group]
  name := PulseTargetType.name
  mem_all := by intro value; cases value <;> decide
  nodup_all := by decide
  length_all_le := by decide

inductive PulseType where
  | color | hsv
  deriving DecidableEq, Inhabited

def PulseType.name : PulseType → String
  | color => "Color"
  | hsv => "Hsv"

instance : Enumeration PulseType where
  title := "PulseType"
  all := [.color, .hsv]
  name := PulseType.name
  mem_all := by intro value; cases value <;> decide
  nodup_all := by decide
  length_all_le := by decide

inductive PulseMode where
  | both | mainOnly | detailOnly
  deriving DecidableEq, Inhabited

def PulseMode.name : PulseMode → String
  | both => "Both"
  | mainOnly => "MainOnly"
  | detailOnly => "DetailOnly"

instance : Enumeration PulseMode where
  title := "PulseMode"
  all := [.both, .mainOnly, .detailOnly]
  name := PulseMode.name
  mem_all := by intro value; cases value <;> decide
  nodup_all := by decide
  length_all_le := by decide

inductive TargetType where
  | none | xOnly | yOnly
  deriving DecidableEq, Inhabited

def TargetType.name : TargetType → String
  | none => "None"
  | xOnly => "XOnly"
  | yOnly => "YOnly"

instance : Enumeration TargetType where
  title := "TargetType"
  all := [.none, .xOnly, .yOnly]
  name := TargetType.name
  mem_all := by intro value; cases value <;> decide
  nodup_all := by decide
  length_all_le := by decide

inductive ToggleType where
  | default | on | off
  deriving DecidableEq, Inhabited

def ToggleType.name : ToggleType → String
  | default => "Default"
  | on => "On"
  | off => "Off"

instance : Enumeration ToggleType where
  title := "ToggleType"
  all := [.default, .on, .off]
  name := ToggleType.name
  mem_all := by intro value; cases value <;> decide
  nodup_all := by decide
  length_all_le := by decide

inductive InstantCountComparison where
  | equals | larger | smaller
  deriving DecidableEq, Inhabited

def InstantCountComparison.name : InstantCountComparison → String
  | equals => "Equals"
  | larger => "Larger"
  | smaller => "Smaller"

instance : Enumeration InstantCountComparison where
  title := "InstantCountComparison"
  all := [.equals, .larger, .smaller]
  name := InstantCountComparison.name
  mem_all := by intro value; cases value <;> decide
  nodup_all := by decide
  length_all_le := by decide

inductive PickupItemMode where
  | default | pickup | toggle
  deriving DecidableEq, Inhabited

def PickupItemMode.name : PickupItemMode → String
  | default => "Default"
  | pickup => "Pickup"
  | toggle => "Toggle"

instance : Enumeration PickupItemMode where
  title := "PickupItemMode"
  all := [.default, .pickup, .toggle]
  name := PickupItemMode.name
  mem_all := by intro value; cases value <;> decide
  nodup_all := by decide
  length_all_le := by decide

end LevelFormat.Object
