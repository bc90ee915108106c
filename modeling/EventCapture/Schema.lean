/-! The names that structured events of this library are written with: names of fields, of events
and of operations. -/

set_option autoImplicit false

namespace EventCapture.Schema

def component : String := "component"

def operation : String := "op"

def event : String := "event"

def duration : String := "duration_ms"

def sessionId : String := "session_id"

/-- The field that becomes the message of a captured event. -/
def message : String := "message"

/-- The field that becomes the error of a captured event. -/
def error : String := "error"

/-- The field that becomes the kind of that error. -/
def errorKind : String := "error.kind"

def failureKind : String := "err.kind"

def failureCode : String := "err.code"

def start : String := "start"

def finish : String := "end"

def finishFailed : String := "end_error"

def sessionOpen : String := "session_open"

def sessionClose : String := "session_close"

def sessionWait : String := "session_wait"

def patterns : String := "patterns"

def minimumLevel : String := "minimum_level"

def captured : String := "captured"

def patternsVariable : String := "LOGCAP_PATTERNS"

def levelVariable : String := "LOGCAP_MIN_LEVEL"

end EventCapture.Schema
