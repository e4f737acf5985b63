/-!
# Label tables

A device encodes what it reports in short raw keys; a table gives each raw key the label to show.
A raw key that is in no entry has no label and shows as `undefined`.
-/

namespace GatewayTelemetry

inductive Label where
  | known (text : String)
  | undefined
  deriving DecidableEq, Inhabited

namespace Label

def text : Label → String
  | .known text => text
  | .undefined => "undefined"

def isKnown : Label → Bool
  | .known _ => true
  | .undefined => false

end Label

structure Table where
  entries : List (String × String)

namespace Table

def lookup (table : Table) (key : String) : Label :=
  match table.entries.lookup key with
  | some label => .known label
  | none => .undefined

def environment : Table where
  entries :=
    [("PM2.5", "PM2.5"), ("PM10", "PM10"), ("Temp", "温度"), ("Noise", "噪音"), ("Humid", "湿度"),
      ("illumination", "亮度"), ("barometric pressure", "气压"), ("windspeed", "风速")]

def lock : Table where
  entries := [("lock", "关"), ("unlock", "开"), ("exception", "异常")]

def power : Table where
  entries := [("week", "周用电量"), ("month", "月用电量"), ("year", "年用电量")]

/-- Alarm codes, the same for the power supply and for display screens. -/
def alarm : Table where
  entries :=
    [("Poweroff", "断电"), ("belowCurrent", "欠电流"), ("overCurrent", "过电流"),
      ("belowVoltage", "欠电压"), ("overVoltage", "过电压")]

end Table

def alarmFieldName : String :=
  "报警类型"

/-- The name of the field of the lock at an index from zero; locks are numbered from one. -/
def lockFieldName (index : Nat) : String :=
  "门锁" ++ String.ofList (Nat.toDigits 10 (index + 1)) ++ "状态"

end GatewayTelemetry
