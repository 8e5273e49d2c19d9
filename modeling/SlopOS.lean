import SlopOS.Ebpf.Soundness
import SlopOS.Memory.Isolation
import SlopOS.Memory.LiveRanges
import SlopOS.Ipc.Fifo
import SlopOS.Ipc.Accept
import SlopOS.Filesystem.Reuse
import SlopOS.Filesystem.CacheCoherence
import SlopOS.Filesystem.Openat
import SlopOS.Virtio.Sequential
import SlopOS.Ipc.Handles
import SlopOS.Desktop.ConfigHandoff
import SlopOS.Desktop.WallpaperHandoff
import SlopOS.Wayland.SurfaceCycles
import SlopOS.Wayland.SurfacePublication
import SlopOS.Filesystem.ExactCommits
import SlopOS.Process.Invariant
import SlopOS.Shell.ScrollRuns
import SlopOS.Executor.Wakeups
import SlopOS.Ext4.InodeCreation
import SlopOS.Input.Keyboard
import SlopOS.Process.Scheduling
import SlopOS.Shell.PngFilter
