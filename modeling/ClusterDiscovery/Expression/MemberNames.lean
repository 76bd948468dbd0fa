/-! # Names of members

Which members the values of each type have. A member whose name starts with an underscore exists
but may not be read; asking for one is refused, and asking for a name that is in no list is
not. -/

namespace ClusterDiscovery.Expression.MemberNames

def words (s : String) : List String := (s.toList.splitOn ' ').map String.ofList

/-- Protected members of every value. -/
def commonProtected : List String := words <|
    "__class__ __delattr__ __dir__ __doc__ __eq__ __format__ __ge__ __getattribute__ " ++
    "__getstate__ __gt__ __hash__ __init__ __init_subclass__ __le__ __lt__ __ne__ __new__ " ++
    "__reduce__ __reduce_ex__ __repr__ __setattr__ __sizeof__ __str__ __subclasshook__"

def integerProtected : List String := words <|
    "__abs__ __add__ __and__ __bool__ __ceil__ __divmod__ __float__ __floor__ __floordiv__ " ++
    "__getnewargs__ __index__ __int__ __invert__ __lshift__ __mod__ __mul__ __neg__ __or__ " ++
    "__pos__ __pow__ __radd__ __rand__ __rdivmod__ __rfloordiv__ __rlshift__ __rmod__ " ++
    "__rmul__ __ror__ __round__ __rpow__ __rrshift__ __rshift__ __rsub__ __rtruediv__ " ++
    "__rxor__ __sub__ __truediv__ __trunc__ __xor__"

def floatProtected : List String := words <|
    "__abs__ __add__ __bool__ __ceil__ __divmod__ __float__ __floor__ __floordiv__ " ++
    "__getformat__ __getnewargs__ __int__ __mod__ __mul__ __neg__ __pos__ __pow__ __radd__ " ++
    "__rdivmod__ __rfloordiv__ __rmod__ __rmul__ __round__ __rpow__ __rsub__ __rtruediv__ " ++
    "__sub__ __truediv__ __trunc__"

def complexProtected : List String := words <|
    "__abs__ __add__ __bool__ __complex__ __getnewargs__ __mul__ __neg__ __pos__ __pow__ " ++
    "__radd__ __rmul__ __rpow__ __rsub__ __rtruediv__ __sub__ __truediv__"

def textProtected : List String := words <|
    "__add__ __contains__ __getitem__ __getnewargs__ __iter__ __len__ __mod__ __mul__ " ++
    "__rmod__ __rmul__"

def listProtected : List String := words <|
    "__add__ __class_getitem__ __contains__ __delitem__ __getitem__ __iadd__ __imul__ " ++
    "__iter__ __len__ __mul__ __reversed__ __rmul__ __setitem__"

def mapProtected : List String := words <|
    "__class_getitem__ __contains__ __delitem__ __getitem__ __ior__ __iter__ __len__ __or__ " ++
    "__reversed__ __ror__ __setitem__"

def tupleProtected : List String := words <|
    "__add__ __class_getitem__ __contains__ __getitem__ __getnewargs__ __iter__ __len__ " ++
    "__mul__ __rmul__"

def rangeProtected : List String := words <|
    "__bool__ __contains__ __getitem__ __iter__ __len__ __reversed__"

def setViewProtected : List String := words <|
    "__and__ __contains__ __iter__ __len__ __or__ __rand__ __reversed__ __ror__ __rsub__ " ++
    "__rxor__ __sub__ __xor__"

def setProtected : List String := words <|
    "__and__ __class_getitem__ __contains__ __iand__ __ior__ __isub__ __iter__ __ixor__ " ++
    "__len__ __or__ __rand__ __ror__ __rsub__ __rxor__ __sub__ __xor__"

def integerMembers : List String := words <|
    "as_integer_ratio bit_count bit_length conjugate denominator from_bytes imag numerator " ++
    "real to_bytes"

def floatMembers : List String := words <|
    "as_integer_ratio conjugate fromhex hex imag is_integer real"

def complexMembers : List String := words <|
    "conjugate imag real"

def textMembers : List String := words <|
    "capitalize casefold center count encode endswith expandtabs find format format_map " ++
    "index isalnum isalpha isascii isdecimal isdigit isidentifier islower isnumeric " ++
    "isprintable isspace istitle isupper join ljust lower lstrip maketrans partition " ++
    "removeprefix removesuffix replace rfind rindex rjust rpartition rsplit rstrip split " ++
    "splitlines startswith strip swapcase title translate upper zfill"

def bytesMembers : List String := words <|
    "capitalize center count decode endswith expandtabs find fromhex hex index isalnum " ++
    "isalpha isascii isdigit islower isspace istitle isupper join ljust lower lstrip " ++
    "maketrans partition removeprefix removesuffix replace rfind rindex rjust rpartition " ++
    "rsplit rstrip split splitlines startswith strip swapcase title translate upper zfill"

def listMembers : List String := words <|
    "append clear copy count extend index insert pop remove reverse sort"

def mapMembers : List String := words <|
    "clear copy fromkeys get items keys pop popitem setdefault update values"

def tupleMembers : List String := words <|
    "count index"

def rangeMembers : List String := words <|
    "count index start step stop"

def setMembers : List String := words <|
    "add clear copy difference difference_update discard intersection intersection_update " ++
    "isdisjoint issubset issuperset pop remove symmetric_difference " ++
    "symmetric_difference_update union update"

/-- Protected members of the functions and methods that come with the language. -/
def functionProtected : List String := words <|
    "__call__ __module__ __name__ __qualname__ __self__ __text_signature__"

/-- Protected members of functions and of methods written in the language's library. -/
def libraryProtected : List String := words <|
    "__annotations__ __builtins__ __call__ __closure__ __code__ __defaults__ __dict__ __func__ " ++
    "__get__ __globals__ __kwdefaults__ __module__ __name__ __qualname__ __self__"

def typeProtected : List String := words <|
    "__abstractmethods__ __annotations__ __base__ __bases__ __basicsize__ __call__ __dict__ " ++
    "__dictoffset__ __flags__ __instancecheck__ __itemsize__ __module__ __mro__ __name__ " ++
    "__prepare__ __qualname__ __subclasscheck__ __subclasses__ __text_signature__ " ++
    "__weakrefoffset__"

def markupProtected : List String := words <|
    "__dict__ __html__ __html_format__ __module__ __radd__ __slots__"

def undefinedProtected : List String := words <|
    "__add__ __bool__ __call__ __complex__ __div__ __float__ __floordiv__ __getattr__ " ++
    "__getitem__ __int__ __iter__ __len__ __mod__ __module__ __mul__ __neg__ __pos__ __pow__ " ++
    "__radd__ __rdiv__ __rfloordiv__ __rmod__ __rmul__ __rpow__ __rsub__ __rtruediv__ " ++
    "__slots__ __sub__ __truediv__ _fail_with_undefined_error _undefined_exception " ++
    "_undefined_hint _undefined_message _undefined_name _undefined_obj"

def generatorProtected : List String := words <|
    "__del__ __iter__ __name__ __next__ __qualname__ gi_code gi_frame"

def iteratorProtected : List String := words "__iter__ __length_hint__ __next__"

def objectProtected : List String := words "__call__ __dict__ __module__ __next__ __weakref__"

end ClusterDiscovery.Expression.MemberNames
